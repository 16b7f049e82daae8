import Mathlib

/-!
# Machines that read one symbol at a time and emit outputs

A transducer keeps a state, reads a symbol and may emit a finite list of outputs.
`feed` runs it over one chunk and `feedChunks` over a list of chunks. What comes out
depends only on the concatenation of the chunks, so a result about `feed` covers every
way of cutting the input. `Simulation` relates two machines that read the same input.
-/

/-- One step reads a symbol, changes the state and emits outputs. -/
structure Transducer (σ ι ο : Type*) where
  step : σ → ι → σ × List ο

namespace Transducer

variable {σ τ ι ο ω : Type*}

/-- Run over one chunk, collecting the outputs in order. -/
def feed (M : Transducer σ ι ο) (s : σ) : List ι → σ × List ο
  | [] => (s, [])
  | b :: bs =>
    let r := M.step s b
    let q := M.feed r.1 bs
    (q.1, r.2 ++ q.2)

/-- Run over consecutive chunks; the state survives from one chunk to the next. -/
def feedChunks (M : Transducer σ ι ο) (s : σ) : List (List ι) → σ × List ο
  | [] => (s, [])
  | c :: cs =>
    let r := M.feed s c
    let q := M.feedChunks r.1 cs
    (q.1, r.2 ++ q.2)

@[simp] theorem feed_nil (M : Transducer σ ι ο) (s : σ) : M.feed s [] = (s, []) := rfl

theorem feed_cons (M : Transducer σ ι ο) (s : σ) (b : ι) (bs : List ι) :
    M.feed s (b :: bs) =
      ((M.feed (M.step s b).1 bs).1, (M.step s b).2 ++ (M.feed (M.step s b).1 bs).2) := rfl

theorem feed_append (M : Transducer σ ι ο) (s : σ) (xs ys : List ι) :
    M.feed s (xs ++ ys) =
      ((M.feed (M.feed s xs).1 ys).1, (M.feed s xs).2 ++ (M.feed (M.feed s xs).1 ys).2) := by
  induction xs generalizing s with
  | nil => simp
  | cons b bs ih => simp only [List.cons_append, feed_cons, ih, List.append_assoc]

/-- The cut points are invisible: chunks behave like their concatenation. -/
theorem feedChunks_eq_feed (M : Transducer σ ι ο) (s : σ) (chunks : List (List ι)) :
    M.feedChunks s chunks = M.feed s chunks.flatten := by
  induction chunks generalizing s with
  | nil => rfl
  | cons c cs ih => simp only [feedChunks, List.flatten_cons, feed_append, ih]

/-- A relation between two machines that every step keeps, while the outputs of the
second are the images of the outputs of the first. -/
structure Simulation (M : Transducer σ ι ο) (N : Transducer τ ι ω) (f : ο → ω)
    (R : σ → τ → Prop) : Prop where
  related : ∀ s t b, R s t → R (M.step s b).1 (N.step t b).1
  outputs : ∀ s t b, R s t → (N.step t b).2 = (M.step s b).2.map f

/-- Related machines emit corresponding outputs on every input. -/
theorem Simulation.feed {M : Transducer σ ι ο} {N : Transducer τ ι ω} {f : ο → ω}
    {R : σ → τ → Prop} (h : Simulation M N f R) {s : σ} {t : τ} (hst : R s t) (xs : List ι) :
    R (M.feed s xs).1 (N.feed t xs).1 ∧ (N.feed t xs).2 = (M.feed s xs).2.map f := by
  induction xs generalizing s t with
  | nil => exact ⟨hst, rfl⟩
  | cons b bs ih =>
    obtain ⟨hr, ho⟩ := ih (h.related s t b hst)
    refine ⟨hr, ?_⟩
    rw [feed_cons, feed_cons, ho, h.outputs s t b hst, List.map_append]

end Transducer
