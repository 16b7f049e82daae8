import Mathlib

/-!
# What has happened since

A history lists marks, the oldest first. `Since start stop h` says that some mark of `h` meets
`start` and no later one meets `stop`. `Guarded p Q h` says that whenever a mark met `p`, the
history before it met `Q`. Both are kept up one mark at a time.
-/

namespace History

variable {α : Type*} {start stop p : α → Prop} {Q : List α → Prop} {h : List α} {m : α}

def Since (start stop : α → Prop) (h : List α) : Prop :=
  ∃ before a after, h = before ++ a :: after ∧ start a ∧ ∀ b ∈ after, ¬ stop b

def Guarded (p : α → Prop) (Q : List α → Prop) (h : List α) : Prop :=
  ∀ before a after, h = before ++ a :: after → p a → Q before

theorem since_of_start (hm : start m) : Since start stop (h ++ [m]) :=
  ⟨h, m, [], rfl, hm, by simp⟩

theorem Since.concat (since : Since start stop h) (hm : ¬ stop m) :
    Since start stop (h ++ [m]) := by
  obtain ⟨before, a, after, rfl, ha, quiet⟩ := since
  refine ⟨before, a, after ++ [m], by simp, ha, fun b mem => ?_⟩
  rcases List.mem_append.mp mem with old | new
  · exact quiet b old
  · obtain rfl := List.mem_singleton.mp new
    exact hm

/-- A mark that is no start only matters if it is a stop. -/
theorem since_concat (apart : ¬ start m) :
    Since start stop (h ++ [m]) ↔ Since start stop h ∧ ¬ stop m := by
  constructor
  · rintro ⟨before, a, after, split, ha, quiet⟩
    rcases List.eq_nil_or_concat after with rfl | ⟨after, b, rfl⟩
    · obtain ⟨-, same⟩ := List.append_inj' split rfl
      obtain rfl : m = a := by simpa using same
      exact absurd ha apart
    · rw [List.concat_eq_append] at split quiet
      rw [← List.cons_append, ← List.append_assoc] at split
      obtain ⟨rfl, same⟩ := List.append_inj' split rfl
      obtain rfl : m = b := by simpa using same
      exact ⟨⟨before, a, after, rfl, ha, fun c mem => quiet c (List.mem_append_left _ mem)⟩,
        quiet m (by simp)⟩
  · rintro ⟨since, hm⟩
    exact since.concat hm

theorem guarded_nil : Guarded p Q [] := by
  intro before a after split
  simp at split

/-- The new mark is the only one to look at. -/
theorem guarded_concat : Guarded p Q (h ++ [m]) ↔ Guarded p Q h ∧ (p m → Q h) := by
  constructor
  · intro guarded
    refine ⟨fun before a after split ha => ?_, fun hm => guarded h m [] rfl hm⟩
    exact guarded before a (after ++ [m]) (by simp [split]) ha
  · rintro ⟨guarded, new⟩ before a after split ha
    rcases List.eq_nil_or_concat after with rfl | ⟨after, b, rfl⟩
    · obtain ⟨rfl, same⟩ := List.append_inj' split rfl
      obtain rfl : m = a := by simpa using same
      exact new ha
    · rw [List.concat_eq_append, ← List.cons_append, ← List.append_assoc] at split
      obtain ⟨rfl, -⟩ := List.append_inj' split rfl
      exact guarded before a after rfl ha

/-- A start that follows a stop was made behind it. -/
theorem Since.mem_of_append {before after : List α} {b : α}
    (since : Since start stop (before ++ b :: after)) (hb : stop b) (apart : ¬ start b) :
    ∃ a ∈ after, start a := by
  obtain ⟨front, a, back, split, ha, quiet⟩ := since
  rcases List.append_eq_append_iff.mp split with ⟨middle, rfl, rest⟩ | ⟨middle, rfl, rest⟩
  · cases middle with
    | nil =>
      obtain ⟨rfl, -⟩ := List.cons_eq_cons.mp rest
      exact absurd ha apart
    | cons c middle =>
      obtain ⟨rfl, rfl⟩ := List.cons_eq_cons.mp rest
      exact ⟨a, by simp, ha⟩
  · cases middle with
    | nil =>
      obtain ⟨rfl, -⟩ := List.cons_eq_cons.mp rest
      exact absurd ha apart
    | cons c middle =>
      obtain ⟨rfl, rfl⟩ := List.cons_eq_cons.mp rest
      exact absurd hb (quiet b (by simp))

end History
