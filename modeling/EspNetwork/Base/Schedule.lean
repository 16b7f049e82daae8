import Mathlib

/-!
# Runs of nondeterministic systems

A concurrent system is a partial step function: the action names the task that moves and
carries every choice that is not its own (the scheduler's, a `select` arm, a result of the
environment). `exec` runs a schedule. An invariant is proved for one step and holds after
every schedule; `Obeys` restricts a schedule to the steps that meet a condition.
-/

namespace Schedule

variable {σ α : Type*}

/-- The state after a schedule, if every action was enabled when its turn came. -/
def exec (step : σ → α → Option σ) (s : σ) : List α → Option σ
  | [] => some s
  | a :: as => (step s a).bind fun t => exec step t as

@[simp] theorem exec_nil (step : σ → α → Option σ) (s : σ) : exec step s [] = some s := rfl

theorem exec_cons {step : σ → α → Option σ} {s t : σ} {a : α} {as : List α} :
    exec step s (a :: as) = some t ↔ ∃ u, step s a = some u ∧ exec step u as = some t := by
  simp [exec, Option.bind_eq_some_iff]

theorem exec_append {step : σ → α → Option σ} {s t : σ} {as bs : List α} :
    exec step s (as ++ bs) = some t ↔
      ∃ u, exec step s as = some u ∧ exec step u bs = some t := by
  induction as generalizing s with
  | nil => simp
  | cons a as ih =>
    simp only [List.cons_append, exec_cons, ih]
    grind

/-- What every step preserves holds after every schedule. -/
theorem exec_invariant {step : σ → α → Option σ} (P : σ → Prop)
    (hstep : ∀ s a t, P s → step s a = some t → P t) {s t : σ} {as : List α}
    (hs : P s) (run : exec step s as = some t) : P t := by
  induction as generalizing s with
  | nil =>
    obtain rfl : s = t := by simpa using run
    exact hs
  | cons a as ih =>
    obtain ⟨u, hu, rest⟩ := exec_cons.mp run
    exact ih (hstep s a u hs hu) rest

/-- The same of the state together with what is counted along the schedule. -/
theorem exec_invariant_foldl {κ : Type*} {step : σ → α → Option σ} {count : κ → α → κ}
    (P : σ → κ → Prop) (hstep : ∀ s k a t, P s k → step s a = some t → P t (count k a)) {s t : σ}
    {k : κ} {as : List α} (hs : P s k) (run : exec step s as = some t) :
    P t (as.foldl count k) := by
  induction as generalizing s k with
  | nil =>
    obtain rfl : s = t := by simpa using run
    exact hs
  | cons a as ih =>
    obtain ⟨u, hu, rest⟩ := exec_cons.mp run
    exact ih (hstep s k a u hs hu) rest

/-- Every step of the schedule meets `G` in the state it is taken in. -/
def Obeys (step : σ → α → Option σ) (G : σ → α → Prop) (s : σ) : List α → Prop
  | [] => True
  | a :: as => G s a ∧ ∀ t, step s a = some t → Obeys step G t as

theorem obeys_cons {step : σ → α → Option σ} {G : σ → α → Prop} {s t : σ} {a : α} {as : List α}
    (allowed : G s a) (taken : step s a = some t) (obeys : Obeys step G t as) :
    Obeys step G s (a :: as) := by
  refine ⟨allowed, fun u hu => ?_⟩
  obtain rfl := Option.some.inj (taken.symm.trans hu)
  exact obeys

/-- A schedule can be replayed to see whether it obeys a condition that can be checked. -/
instance decidableObeys {step : σ → α → Option σ} {G : σ → α → Prop} [∀ s a, Decidable (G s a)] :
    (s : σ) → (as : List α) → Decidable (Obeys step G s as)
  | _, [] => isTrue trivial
  | s, a :: as =>
    match taken : step s a with
    | none => decidable_of_iff (G s a) ⟨fun g => ⟨g, by simp [taken]⟩, And.left⟩
    | some t =>
      have : Decidable (Obeys step G t as) := decidableObeys t as
      decidable_of_iff (G s a ∧ Obeys step G t as)
        ⟨fun h => obeys_cons h.1 taken h.2, fun h => ⟨h.1, h.2 t taken⟩⟩

theorem Obeys.and {step : σ → α → Option σ} {G H : σ → α → Prop} {s : σ} {as : List α}
    (g : Obeys step G s as) (h : Obeys step H s as) :
    Obeys step (fun s a => G s a ∧ H s a) s as := by
  induction as generalizing s with
  | nil => trivial
  | cons a as ih => exact ⟨⟨g.1, h.1⟩, fun t taken => ih (g.2 t taken) (h.2 t taken)⟩

theorem Obeys.mono {step : σ → α → Option σ} {G H : σ → α → Prop} {s : σ} {as : List α}
    (g : Obeys step G s as) (imp : ∀ s a, G s a → H s a) : Obeys step H s as := by
  induction as generalizing s with
  | nil => trivial
  | cons a as ih => exact ⟨imp s a g.1, fun t taken => ih (g.2 t taken)⟩

/-- Actions that meet `G` in every state. -/
theorem obeys_of_forall {step : σ → α → Option σ} {G : σ → α → Prop} {s : σ} {as : List α}
    (all : ∀ s, ∀ a ∈ as, G s a) : Obeys step G s as := by
  induction as generalizing s with
  | nil => trivial
  | cons a as ih =>
    exact ⟨all s a List.mem_cons_self,
      fun t _ => ih fun s b mem => all s b (List.mem_cons_of_mem _ mem)⟩

/-- An invariant that only steps meeting `G` preserve holds in the runs that obey `G`. -/
theorem exec_invariant_of_obeys {step : σ → α → Option σ} {G : σ → α → Prop} (P : σ → Prop)
    (hstep : ∀ s a t, P s → G s a → step s a = some t → P t) {s t : σ} {as : List α}
    (hs : P s) (obeys : Obeys step G s as) (run : exec step s as = some t) : P t := by
  induction as generalizing s with
  | nil =>
    obtain rfl : s = t := by simpa using run
    exact hs
  | cons a as ih =>
    obtain ⟨u, hu, rest⟩ := exec_cons.mp run
    exact ih (hstep s a u hs obeys.1 hu) (obeys.2 u hu) rest

/-- If the steps meeting `G` are exactly those that keep `P`, then the runs in which `P` holds
throughout are exactly those that obey `G`. -/
theorem obeys_iff_forall_prefix {step : σ → α → Option σ} {G : σ → α → Prop} (Inv P : σ → Prop)
    (hinv : ∀ s a t, Inv s → step s a = some t → Inv t)
    (hexact : ∀ s a t, Inv s → P s → step s a = some t → (P t ↔ G s a))
    {s t : σ} {as : List α} (hs : Inv s) (hp : P s) (run : exec step s as = some t) :
    (∀ bs u, bs <+: as → exec step s bs = some u → P u) ↔ Obeys step G s as := by
  induction as generalizing s with
  | nil =>
    refine ⟨fun _ => trivial, fun _ bs u short hu => ?_⟩
    obtain rfl : bs = [] := by simpa using short
    obtain rfl : s = u := by simpa using hu
    exact hp
  | cons a as ih =>
    obtain ⟨v, hv, rest⟩ := exec_cons.mp run
    constructor
    · intro all
      have pv : P v := all [a] v (by simp) (exec_cons.mpr ⟨v, hv, rfl⟩)
      refine ⟨(hexact s a v hs hp hv).mp pv, fun w hw => ?_⟩
      obtain rfl := Option.some.inj (hv.symm.trans hw)
      refine (ih (hinv s a v hs hv) pv rest).mp fun bs u short hu => ?_
      exact all (a :: bs) u (List.cons_prefix_cons.mpr ⟨rfl, short⟩) (exec_cons.mpr ⟨v, hv, hu⟩)
    · rintro ⟨ga, obeys⟩ bs u short hu
      cases bs with
      | nil =>
        obtain rfl : s = u := by simpa using hu
        exact hp
      | cons b bs =>
        obtain ⟨rfl, later⟩ := List.cons_prefix_cons.mp short
        obtain ⟨w, hw, hu⟩ := exec_cons.mp hu
        obtain rfl := Option.some.inj (hv.symm.trans hw)
        have pv : P v := (hexact s b v hs hp hv).mpr ga
        exact (ih (hinv s b v hs hv) pv rest).mpr (obeys v hv) bs u later hu

/-- If a step meeting `G` keeps `P`, and any other loses it for good, then `P` holds after exactly
those runs that obey `G`. -/
theorem iff_obeys {step : σ → α → Option σ} {G : σ → α → Prop} (Inv P : σ → Prop)
    (hinv : ∀ s a t, Inv s → step s a = some t → Inv t)
    (hexact : ∀ s a t, Inv s → step s a = some t → (P t ↔ P s ∧ G s a))
    {s t : σ} {as : List α} (hs : Inv s) (run : exec step s as = some t) :
    P t ↔ P s ∧ Obeys step G s as := by
  induction as generalizing s with
  | nil =>
    obtain rfl : s = t := by simpa using run
    exact (and_iff_left trivial).symm
  | cons a as ih =>
    obtain ⟨u, hu, rest⟩ := exec_cons.mp run
    rw [ih (hinv s a u hs hu) rest, hexact s a u hs hu, and_assoc]
    refine and_congr_right fun _ => and_congr_right fun _ => ?_
    refine ⟨fun obeys v hv => ?_, fun obeys => obeys u hu⟩
    obtain rfl := Option.some.inj (hu.symm.trans hv)
    exact obeys

/-- If from every state that is not done some step meeting `G` lowers a well-founded measure,
then some schedule obeying `G` gets done. -/
theorem exec_until {β : Type*} [Preorder β] [WellFoundedLT β] {step : σ → α → Option σ}
    {G : σ → α → Prop} {P Done : σ → Prop} (work : σ → β)
    (progress : ∀ s, P s → ¬ Done s → ∃ a t, G s a ∧ step s a = some t ∧ P t ∧ work t < work s)
    {s : σ} (hs : P s) : ∃ as t, Obeys step G s as ∧ exec step s as = some t ∧ Done t := by
  induction h : work s using WellFoundedLT.induction generalizing s with
  | ind w ih =>
    subst h
    by_cases done : Done s
    · exact ⟨[], s, trivial, rfl, done⟩
    · obtain ⟨a, u, allowed, taken, hu, less⟩ := progress s hs done
      obtain ⟨as, t, obeys, run, finished⟩ := ih _ less hu rfl
      exact ⟨a :: as, t, obeys_cons allowed taken obeys, exec_cons.mpr ⟨u, taken, run⟩, finished⟩

/-- Where a `sync.Once` stands: its function runs for the first caller only, and the others
wait until it is through. -/
inductive Once where
  | fresh
  | running
  | finished
  deriving DecidableEq, Repr

end Schedule
