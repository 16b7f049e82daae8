import EspNetwork.Base.Schedule

/-!
# Systems that come to rest

Some actions wind a system down: each of them takes it closer to rest, and one of them is enabled as
long as it is not at rest. Then every schedule of such actions is short, and a schedule that cannot
be continued has brought the system to rest, whoever was scheduled.
-/

namespace Schedule

variable {σ α : Type*}

/-- The actions of `G` wind down what is in `P`: `work` bounds the steps that are left. -/
structure Winds (step : σ → α → Option σ) (G : α → Prop) (P Rest : σ → Prop) (work : σ → ℕ) :
    Prop where
  keeps : ∀ s a t, P s → G a → step s a = some t → P t
  lowers : ∀ s a t, P s → G a → step s a = some t → work t < work s
  enabled : ∀ s, P s → ¬ Rest s → ∃ a t, G a ∧ step s a = some t

variable {step : σ → α → Option σ} {G : α → Prop} {P Rest : σ → Prop} {work : σ → ℕ}

theorem Winds.run (winds : Winds step G P Rest work) {s t : σ} {as : List α} (hs : P s)
    (all : ∀ a ∈ as, G a) (run : exec step s as = some t) :
    P t ∧ as.length + work t ≤ work s := by
  induction as generalizing s with
  | nil =>
    obtain rfl : s = t := by simpa using run
    simpa using hs
  | cons a as ih =>
    obtain ⟨u, taken, rest⟩ := exec_cons.mp run
    have mine : G a := all a List.mem_cons_self
    have less := winds.lowers s a u hs mine taken
    obtain ⟨ht, short⟩ := ih (winds.keeps s a u hs mine taken)
      (fun b mem => all b (List.mem_cons_of_mem _ mem)) rest
    refine ⟨ht, ?_⟩
    rw [List.length_cons]
    omega

/-- No schedule is longer than the work, and where none of the actions is possible any more the
system is at rest. -/
theorem Winds.comes_to_rest (winds : Winds step G P Rest work) {s t : σ} {as : List α} (hs : P s)
    (all : ∀ a ∈ as, G a) (run : exec step s as = some t) :
    as.length ≤ work s ∧ ((∀ a, G a → step t a = none) → Rest t) := by
  obtain ⟨ht, short⟩ := winds.run hs all run
  refine ⟨by omega, fun stuck => ?_⟩
  by_contra busy
  obtain ⟨a, u, mine, taken⟩ := winds.enabled t ht busy
  simp [stuck a mine] at taken

/-- The work of many, of whom one takes a step. -/
theorem sum_map_set {β : Type*} (f : β → ℕ) {xs : List β} {i : ℕ} {x : β} (at_i : xs[i]? = some x)
    (y : β) : ((xs.set i y).map f).sum + f x = (xs.map f).sum + f y := by
  induction xs generalizing i with
  | nil => simp at at_i
  | cons z xs ih =>
    cases i with
    | zero =>
      obtain rfl : z = x := by simpa using at_i
      simp only [List.set_cons_zero, List.map_cons, List.sum_cons]
      omega
    | succ i =>
      have rest := ih (by simpa using at_i)
      simp only [List.set_cons_succ, List.map_cons, List.sum_cons]
      omega

end Schedule
