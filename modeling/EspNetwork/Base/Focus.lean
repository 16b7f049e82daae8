import EspNetwork.Base.Fallible

/-!
# Programs on a part of a state

`focus` runs a program on the part of a state it knows. A program on the whole state `Shows`
one on a part of it when both end the same way and leave the same part behind: what the first
does to the rest is invisible to the second.
-/

namespace Fallible

variable {σ τ ε η α β γ : Type}

/-- Run a program on the part of the state that `get` reads and `set` writes. -/
def focus (get : τ → σ) (set : τ → σ → τ) (p : Fallible σ ε α) : Fallible τ ε α :=
  ExceptT.mk fun t => ((p.outcome (get t)).1, set t (p.outcome (get t)).2)

section Focus

variable {get : τ → σ} {set : τ → σ → τ} {p : Fallible σ ε α} {t : τ}

@[simp] theorem outcome_focus :
    (focus get set p).outcome t = ((p.outcome (get t)).1, set t (p.outcome (get t)).2) := rfl

@[simp] theorem settles_focus {done : α → τ → Prop} {failed : ε → τ → Prop} :
    Settles (focus get set p) t done failed ↔
      Settles p (get t) (fun a s => done a (set t s)) (fun e s => failed e (set t s)) := by
  unfold Settles
  rw [outcome_focus]
  rcases p.outcome (get t) with ⟨r | r, s⟩ <;> rfl

theorem focus_attempt :
    focus get set (attempt p : Fallible σ η _) = attempt (focus get set p) := rfl

/-- Reading and writing the part agree. -/
structure IsPart (get : τ → σ) (set : τ → σ → τ) : Prop where
  get_set : ∀ t s, get (set t s) = s
  set_get : ∀ t, set t (get t) = t
  set_set : ∀ t s s', set (set t s) s' = set t s'

section IsPart

variable (part : IsPart get set)
include part

/-- Programs on a part are put together as on the whole. -/
theorem IsPart.focus_bind (f : α → Fallible σ ε β) :
    focus get set (p >>= f) = focus get set p >>= fun a => focus get set (f a) := by
  funext t
  change (focus get set (p >>= f)).outcome t = (focus get set p >>= _).outcome t
  rw [outcome_bind, outcome_focus, outcome_focus, outcome_bind]
  rcases p.outcome (get t) with ⟨e | a, s⟩
  · rfl
  · change _ = (focus get set (f a)).outcome (set t s)
    rw [outcome_focus, part.get_set, part.set_set]

theorem IsPart.focus_pure (a : α) : focus get set (pure a : Fallible σ ε α) = pure a := by
  funext t
  change (_, set t (get t)) = (_, t)
  rw [part.set_get]
  rfl

theorem IsPart.focus_check (toError : η → ε) (r : Except η α) :
    focus get set (check toError r) = check toError r := by
  cases r with
  | ok a => exact part.focus_pure a
  | error e =>
    funext t
    change (_, set t (get t)) = (_, t)
    rw [part.set_get]
    rfl

end IsPart

end Focus

/-! ## Programs that show another one -/

/-- Seen through `view`, `p` ends from `t` as `q` does from `view t`. -/
def Shows (view : τ → σ) (p : Fallible τ ε α) (q : Fallible σ ε α) (t : τ) : Prop :=
  ((p.outcome t).1, view (p.outcome t).2) = q.outcome (view t)

section Shows

variable {view : τ → σ} {t : τ}

theorem shows_pure (a : α) : Shows view (pure a : Fallible τ ε α) (pure a) t := rfl

theorem shows_throw (e : ε) : Shows view (throw e : Fallible τ ε α) (throw e) t := rfl

theorem shows_modify {g : τ → τ} {g' : σ → σ} (h : view (g t) = g' (view t)) :
    Shows view (modify g : Fallible τ ε Unit) (modify g') t := congrArg (Prod.mk _) h

theorem shows_focus {set : τ → σ → τ} {p : Fallible σ ε α} (h : ∀ t s, view (set t s) = s) :
    Shows view (focus view set p) p t := by
  unfold Shows
  rw [outcome_focus, h]

theorem Shows.bind {p : Fallible τ ε α} {q : Fallible σ ε α} {f : α → Fallible τ ε β}
    {g : α → Fallible σ ε β} (first : Shows view p q t)
    (next : ∀ a u, p.outcome t = (.ok a, u) → Shows view (f a) (g a) u) :
    Shows view (p >>= f) (q >>= g) t := by
  unfold Shows at *
  rw [outcome_bind, outcome_bind, ← first]
  rcases ends : p.outcome t with ⟨e | a, u⟩
  · rfl
  · exact next a u ends

theorem Shows.attempt {p : Fallible τ ε α} {q : Fallible σ ε α} (h : Shows view p q t) :
    Shows view (attempt p : Fallible τ η _) (attempt q) t := by
  unfold Shows at *
  rw [outcome_attempt, outcome_attempt, ← h]

theorem shows_get_bind {f : τ → Fallible τ ε α} {g : σ → Fallible σ ε α}
    (next : Shows view (f t) (g (view t)) t) : Shows view (get >>= f) (get >>= g) t := next

theorem shows_modify_bind {g : τ → τ} {g' : σ → σ} {f : Unit → Fallible τ ε α}
    {f' : Unit → Fallible σ ε α} (same : view (g t) = g' (view t))
    (next : Shows view (f ()) (f' ()) (g t)) :
    Shows view (modify g >>= f) (modify g' >>= f') t := by
  refine (shows_modify same).bind fun a u ends => ?_
  obtain ⟨-, rfl⟩ := Prod.mk.inj ends
  exact next

/-- A first part that `view` does not see. -/
theorem shows_after {p : Fallible τ ε α} {f : α → Fallible τ ε β} {q : Fallible σ ε β} {a : α}
    {u : τ} (ends : p.outcome t = (.ok a, u)) (unseen : view u = view t)
    (next : Shows view (f a) q u) : Shows view (p >>= f) q t := by
  unfold Shows at *
  rw [outcome_bind, ends, ← unseen, ← next]

end Shows

end Fallible
