import Mathlib

/-!
# Programs that fail half way

A program works on a state and returns a value or an error; what it changed before it failed
stays changed. `Settles` says how it ends from one state: a condition on where it returns and
one on where it fails. The rules compute that condition through the program text, so that the
exact outcome of a sequence of fallible calls is read off by rewriting.
-/

/-- A program over `σ` that returns an `α` or fails with an `ε`. -/
abbrev Fallible (σ ε α : Type) := ExceptT ε (StateM σ) α

namespace Fallible

variable {σ ε η α β : Type}

/-- How a program ends when it is started in `s`. -/
def outcome (p : Fallible σ ε α) (s : σ) : Except ε α × σ := StateT.run (m := Id) (ExceptT.run p) s

/-- Run a program and keep its error as a value, as `ret = p();` does. -/
def attempt (p : Fallible σ ε α) : Fallible σ η (Except ε α) :=
  ExceptT.mk (do let ret ← p.run; pure (.ok ret))

/-- Continue with a value, or fail with the error it stands for. -/
def check (toError : η → ε) : Except η α → Fallible σ ε α
  | .ok a => pure a
  | .error e => throw (toError e)

/-- Where the program returns `done` holds, and where it fails `failed` does. -/
def Settles (p : Fallible σ ε α) (s : σ) (done : α → σ → Prop) (failed : ε → σ → Prop) : Prop :=
  match p.outcome s with
  | (.ok a, t) => done a t
  | (.error e, t) => failed e t

variable {s : σ} {done : α → σ → Prop} {failed : ε → σ → Prop}

/-! ## Rules -/

@[simp] theorem settles_pure (a : α) : Settles (pure a : Fallible σ ε α) s done failed ↔ done a s :=
  Iff.rfl

@[simp] theorem settles_throw (e : ε) :
    Settles (throw e : Fallible σ ε α) s done failed ↔ failed e s := Iff.rfl

@[simp] theorem settles_modify (g : σ → σ) {done : Unit → σ → Prop} :
    Settles (modify g : Fallible σ ε Unit) s done failed ↔ done () (g s) := Iff.rfl

@[simp] theorem settles_get {done : σ → σ → Prop} :
    Settles (get : Fallible σ ε σ) s done failed ↔ done s s := Iff.rfl

theorem outcome_bind (p : Fallible σ ε α) (f : α → Fallible σ ε β) (s : σ) :
    (p >>= f).outcome s =
      match p.outcome s with
      | (.ok a, t) => (f a).outcome t
      | (.error e, t) => (.error e, t) := by
  simp only [outcome, ExceptT.run_bind, StateT.run_bind]
  change (match StateT.run (m := Id) (ExceptT.run p) s with | (r, t) => _) = _
  rcases StateT.run (m := Id) (ExceptT.run p) s with ⟨r | r, t⟩ <;> rfl

/-- A sequence settles when its second part does wherever the first one returns. -/
@[simp] theorem settles_bind (p : Fallible σ ε α) (f : α → Fallible σ ε β)
    {done : β → σ → Prop} :
    Settles (p >>= f) s done failed ↔
      Settles p s (fun a t => Settles (f a) t done failed) failed := by
  unfold Settles
  rw [outcome_bind]
  rcases p.outcome s with ⟨r | r, t⟩ <;> rfl

@[simp] theorem settles_map (g : α → β) (p : Fallible σ ε α) {done : β → σ → Prop} :
    Settles (g <$> p) s done failed ↔ Settles p s (fun a => done (g a)) failed := by
  rw [map_eq_pure_bind, settles_bind]
  rfl

theorem outcome_attempt (p : Fallible σ ε α) (s : σ) :
    (attempt p : Fallible σ η _).outcome s = (.ok (p.outcome s).1, (p.outcome s).2) := rfl

@[simp] theorem settles_attempt (p : Fallible σ ε α) {done : Except ε α → σ → Prop}
    {failed : η → σ → Prop} :
    Settles (attempt p) s done failed ↔
      Settles p s (fun a => done (.ok a)) (fun e => done (.error e)) := by
  unfold Settles
  rw [outcome_attempt]
  rcases p.outcome s with ⟨r | r, t⟩ <;> rfl

@[simp] theorem settles_check (toError : η → ε) (r : Except η α) :
    Settles (check toError r) s done failed ↔
      match r with
      | .ok a => done a s
      | .error e => failed (toError e) s := by
  cases r <;> simp [check]

theorem settles_ite (c : Prop) [Decidable c] (p q : Fallible σ ε α) :
    Settles (if c then p else q) s done failed ↔
      if c then Settles p s done failed else Settles q s done failed := by
  split <;> rfl

/-! ## Consequences -/

theorem Settles.mono {p : Fallible σ ε α} {done' : α → σ → Prop} {failed' : ε → σ → Prop}
    (h : Settles p s done failed) (ok : ∀ a t, done a t → done' a t)
    (error : ∀ e t, failed e t → failed' e t) : Settles p s done' failed' := by
  unfold Settles at *
  split <;> simp_all

theorem Settles.and {p : Fallible σ ε α} {done' : α → σ → Prop} {failed' : ε → σ → Prop}
    (h : Settles p s done failed) (h' : Settles p s done' failed') :
    Settles p s (fun a t => done a t ∧ done' a t) fun e t => failed e t ∧ failed' e t := by
  unfold Settles at *
  split <;> simp_all

/-- A program ends one way or the other. -/
theorem settles_trivial (p : Fallible σ ε α) (s : σ) :
    Settles p s (fun _ _ => True) fun _ _ => True := by
  unfold Settles
  rcases p.outcome s with ⟨e | a, t⟩ <;> trivial

theorem not_settles_false (p : Fallible σ ε α) (s : σ) :
    ¬ Settles p s (fun _ _ => False) fun _ _ => False := by
  unfold Settles
  split <;> exact id

/-- What holds of either ending holds of the outcome. -/
theorem settles_outcome {p : Fallible σ ε α} {ends : Except ε α × σ → Prop} :
    Settles p s (fun a t => ends (.ok a, t)) (fun e t => ends (.error e, t)) ↔
      ends (p.outcome s) := by
  unfold Settles
  generalize p.outcome s = ending
  rcases ending with ⟨r | r, t⟩ <;> rfl

theorem Settles.of_outcome {p : Fallible σ ε α} (h : Settles p s done failed) {a : α} {t : σ}
    (returns : p.outcome s = (.ok a, t)) : done a t := by
  unfold Settles at h
  rwa [returns] at h

/-- What holds however a program ends holds of the state it leaves. -/
theorem Settles.state {p : Fallible σ ε α} {I : σ → Prop}
    (h : Settles p s (fun _ => I) (fun _ => I)) : I (p.outcome s).2 := by
  unfold Settles at h
  generalize p.outcome s = ending at h ⊢
  rcases ending with ⟨r | r, t⟩ <;> exact h

/-! ## Programs that return -/

/-- The program never fails, and `post` holds of what it returns. -/
def Returns (p : Fallible σ ε α) (post : α → Prop) : Prop :=
  ∀ s, Settles p s (fun a _ => post a) fun _ _ => False

section Returns

variable {post : α → Prop}

theorem returns_pure {a : α} (h : post a) : Returns (pure a : Fallible σ ε α) post := fun _ => h

theorem returns_get : Returns (get : Fallible σ ε σ) fun _ => True := fun _ => trivial

theorem returns_modify (g : σ → σ) : Returns (modify g : Fallible σ ε Unit) fun _ => True :=
  fun _ => trivial

theorem returns_check {toError : η → ε} {r : Except η α} {a : α} (ok : r = .ok a) :
    Returns (check toError r : Fallible σ ε α) (· = a) := by
  subst ok
  exact fun _ => rfl

/-- What is returned or failed with is the value of an attempt. -/
theorem returns_attempt {p : Fallible σ ε α} {post : Except ε α → Prop}
    (h : ∀ s, Settles p s (fun a _ => post (.ok a)) fun e _ => post (.error e)) :
    Returns (attempt p : Fallible σ η _) post := by
  intro s
  rw [settles_attempt]
  exact h s

theorem returns_attempt_any (p : Fallible σ ε α) :
    Returns (attempt p : Fallible σ η _) fun _ => True := by
  refine returns_attempt fun s => ?_
  unfold Settles
  split <;> trivial

theorem Returns.bind {p : Fallible σ ε α} {k : α → Fallible σ ε β} {post' : β → Prop}
    (h : Returns p post) (next : ∀ a, post a → Returns (k a) post') : Returns (p >>= k) post' := by
  intro s
  rw [settles_bind]
  exact (h s).mono (fun a t ha => next a ha t) fun _ _ no => no

end Returns

/-! ## Frames -/

/-- However the program ends, it has left `view` alone. -/
def Keeps (view : σ → β) (p : Fallible σ ε α) : Prop :=
  ∀ s, Settles p s (fun _ t => view t = view s) (fun _ t => view t = view s)

section Keeps

variable {γ : Type} {view : σ → γ}

theorem keeps_pure (a : α) : Keeps view (pure a : Fallible σ ε α) := fun _ => rfl

theorem keeps_throw (e : ε) : Keeps view (throw e : Fallible σ ε α) := fun _ => rfl

theorem keeps_get : Keeps view (get : Fallible σ ε σ) := fun _ => rfl

theorem keeps_modify {g : σ → σ} (h : ∀ s, view (g s) = view s) :
    Keeps view (modify g : Fallible σ ε Unit) := h

theorem Keeps.bind {p : Fallible σ ε α} {f : α → Fallible σ ε β} (first : Keeps view p)
    (next : ∀ a, Keeps view (f a)) : Keeps view (p >>= f) := by
  intro s
  rw [settles_bind]
  apply (first s).mono
  · intro a t ht
    rw [← ht]
    exact next a t
  · exact fun _ _ ht => ht

theorem Keeps.map {p : Fallible σ ε α} (h : Keeps view p) (g : α → β) : Keeps view (g <$> p) := by
  intro s
  rw [settles_map]
  exact h s

theorem Keeps.attempt {p : Fallible σ ε α} (h : Keeps view p) :
    Keeps view (attempt p : Fallible σ η _) := by
  intro s
  rw [settles_attempt]
  exact h s

theorem keeps_check (toError : η → ε) (r : Except η α) : Keeps view (check toError r) := by
  cases r
  · exact keeps_throw _
  · exact keeps_pure _

/-- A program that keeps two views keeps what is seen of both. -/
theorem Keeps.comp {p : Fallible σ ε α} (h : Keeps view p) (g : γ → β) :
    Keeps (fun s => g (view s)) p :=
  fun s => (h s).mono (fun _ _ ht => congrArg g ht) (fun _ _ ht => congrArg g ht)

end Keeps

/-! ## Invariants -/

/-- Started where `I` holds, the program ends where it holds. -/
def Preserves (I : σ → Prop) (p : Fallible σ ε α) : Prop :=
  ∀ s, I s → Settles p s (fun _ => I) fun _ => I

section Preserves

variable {I : σ → Prop}

theorem preserves_pure (a : α) : Preserves I (pure a : Fallible σ ε α) := fun _ h => h

theorem Preserves.bind {p : Fallible σ ε α} {f : α → Fallible σ ε β} (first : Preserves I p)
    (next : ∀ a, Preserves I (f a)) : Preserves I (p >>= f) := by
  intro s h
  rw [settles_bind]
  exact (first s h).mono (fun a t held => next a t held) fun _ _ held => held

theorem Preserves.ite {c : Prop} [Decidable c] {p q : Fallible σ ε α} (yes : c → Preserves I p)
    (no : ¬ c → Preserves I q) : Preserves I (if c then p else q) := by
  split
  · exact yes ‹_›
  · exact no ‹_›

end Preserves

/-! ## All or nothing -/

/-- The program returns, turns `view` into `new` when what it returns is a success, and leaves
`view` alone otherwise. -/
def AllOrNothing (p : Fallible σ ε α) (success : α → Prop) (view : σ → β) (new : β) (s : σ) :
    Prop :=
  Settles p s (fun a t => (success a → view t = new) ∧ (¬ success a → view t = view s))
    fun _ _ => False

theorem allOrNothing_map {γ : Type} (g : α → β) (p : Fallible σ ε α) {success : β → Prop}
    {view : σ → γ} {new : γ} :
    AllOrNothing (g <$> p) success view new s ↔
      AllOrNothing p (fun a => success (g a)) view new s :=
  settles_map g p

/-- A refusal without a call. -/
theorem allOrNothing_pure {a : α} {success : α → Prop} {view : σ → β} {new : β}
    (refusal : ¬ success a) : AllOrNothing (pure a : Fallible σ ε α) success view new s :=
  ⟨fun h => absurd h refusal, fun _ => rfl⟩

end Fallible
