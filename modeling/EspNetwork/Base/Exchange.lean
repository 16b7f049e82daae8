import EspNetwork.Base.Fallible
import EspNetwork.Base.Reader

/-!
# Programs that talk over a byte stream

A `Line` is one end of a stream connection: the reader, the writes made so far, and whatever else
the program keeps. A program reads exact amounts and fails where the stream ends inside one. The
rules follow a program through the content of the stream: either the next piece is there, and the
program goes on with the content behind it, or the content is too short.
-/

/-- One end of a connection. -/
structure Line (ρ β τ : Type) where
  unread : ρ
  written : List (List β)
  state : τ

namespace Line

open Fallible

variable {ρ β τ ε α : Type}

/-- `io.ReadFull`; after a failure nobody reads on. -/
def readFull (R : Reader ρ β) (n : ℕ) : Fallible (Line ρ β τ) Unit (List β) := do
  match R.readFull (← get).unread n with
  | some (piece, r) =>
    modify fun l => { l with unread := r }
    return piece
  | none => throw ()

/-- A write whose result nobody looks at. -/
def write (p : List β) : Fallible (Line ρ β τ) ε Unit :=
  modify fun l => { l with written := l.written ++ [p] }

variable {R : Reader ρ β} {s : Line ρ β τ} {n : ℕ} {done : List β → Line ρ β τ → Prop}
  {failed : Unit → Line ρ β τ → Prop}

@[simp] theorem settles_write {p : List β} {done : Unit → Line ρ β τ → Prop}
    {failed : ε → Line ρ β τ → Prop} :
    Settles (write p) s done failed ↔ done () { s with written := s.written ++ [p] } := Iff.rfl

theorem settles_readFull_iff :
    Settles (readFull R n) s done failed ↔
      match R.readFull s.unread n with
      | some (piece, r) => done piece { s with unread := r }
      | none => failed () s := by
  rw [readFull, settles_bind, settles_get]
  rcases R.readFull s.unread n with _ | ⟨piece, r⟩ <;> rfl

/-- Either the next piece is there, or the stream ends before. -/
theorem settles_readFull
    (read : ∀ piece r, piece.length = n → R.content s.unread = piece ++ R.content r →
      done piece { s with unread := r })
    (short : (R.content s.unread).length < n → failed () s) :
    Settles (readFull R n) s done failed := by
  rw [settles_readFull_iff]
  by_cases enough : n ≤ (R.content s.unread).length
  · obtain ⟨r, taken, behind⟩ := R.readFull_eq_some enough
    rw [taken]
    refine read _ r (List.length_take_of_le enough) ?_
    rw [behind, List.take_append_drop]
  · rw [R.readFull_eq_none (not_le.mp enough)]
    exact short (not_le.mp enough)

theorem settles_readFull_short (short : (R.content s.unread).length < n) (fails : failed () s) :
    Settles (readFull R n) s done failed := by
  rw [settles_readFull_iff, R.readFull_eq_none short]
  exact fails

/-- A piece that is known to be there. -/
theorem settles_readFull_of {piece rest : List β} (content : R.content s.unread = piece ++ rest)
    (size : piece.length = n)
    (read : ∀ r, R.content r = rest → done piece { s with unread := r }) :
    Settles (readFull R n) s done failed := by
  refine settles_readFull (fun piece' r size' content' => ?_) fun short => ?_
  · obtain ⟨rfl, behind⟩ := List.append_inj (content.symm.trans content') (size.trans size'.symm)
    exact read r behind.symm
  · rw [content, List.length_append] at short
    omega

end Line
