import EspNetwork.Base.Schedule

/-!
# Refinement of one system by another

One system refines another when each of its steps is answered by a schedule of the other, which
may be empty and leaves the two related. Then every run is answered by a run, and what the second
system's steps have to obey is obeyed.
-/

namespace Schedule

variable {σ τ α β : Type*}

theorem Obeys.append {step : σ → α → Option σ} {G : σ → α → Prop} {s t : σ} {as bs : List α}
    (front : Obeys step G s as) (run : exec step s as = some t) (back : Obeys step G t bs) :
    Obeys step G s (as ++ bs) := by
  induction as generalizing s with
  | nil =>
    obtain rfl : s = t := by simpa using run
    exact back
  | cons a as ih =>
    obtain ⟨u, hu, rest⟩ := exec_cons.mp run
    exact obeys_cons front.1 hu (ih (front.2 u hu) rest)

/-- Steps that meet `G` are answered by schedules that obey `H`; `answer` says which schedules may
answer a step. -/
structure Refines (step : σ → α → Option σ) (G : σ → α → Prop) (stepA : τ → β → Option τ)
    (H : τ → β → Prop) (answer : α → List β → Prop) (R : σ → τ → Prop) : Prop where
  answers : ∀ {s t a s'}, R s t → G s a → step s a = some s' →
    ∃ bs t', answer a bs ∧ Obeys stepA H t bs ∧ exec stepA t bs = some t' ∧ R s' t'

/-- Runs answer runs. -/
theorem Refines.run {step : σ → α → Option σ} {G : σ → α → Prop} {stepA : τ → β → Option τ}
    {H : τ → β → Prop} {answer : α → List β → Prop} {R : σ → τ → Prop}
    (refines : Refines step G stepA H answer R) {s s' : σ} {t : τ} {as : List α}
    (related : R s t) (obeys : Obeys step G s as) (run : exec step s as = some s') :
    ∃ bss t', List.Forall₂ answer as bss ∧ Obeys stepA H t bss.flatten ∧
      exec stepA t bss.flatten = some t' ∧ R s' t' := by
  induction as generalizing s t with
  | nil =>
    obtain rfl : s = s' := by simpa using run
    exact ⟨[], t, .nil, trivial, rfl, related⟩
  | cons a as ih =>
    obtain ⟨u, hu, rest⟩ := exec_cons.mp run
    obtain ⟨bs, v, answered, first, moved, related'⟩ := refines.answers related obeys.1 hu
    obtain ⟨bss, w, answers, later, moved', related''⟩ := ih related' (obeys.2 u hu) rest
    exact ⟨bs :: bss, w, .cons answered answers, first.append moved later,
      exec_append.mpr ⟨v, moved, moved'⟩, related''⟩

/-- A step that has one answer only is answered by that. -/
theorem flatten_of_answers {answer : α → List β} {as : List α} {bss : List (List β)}
    (answers : List.Forall₂ (fun a bs => bs = answer a) as bss) :
    bss.flatten = as.flatMap answer := by
  induction answers with
  | nil => rfl
  | cons answered _ ih => rw [List.flatten_cons, List.flatMap_cons, answered, ih]

end Schedule
