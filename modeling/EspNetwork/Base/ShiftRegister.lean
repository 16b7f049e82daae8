import Mathlib

/-!
# Shift registers as error detectors

A register over a commutative group is stepped by a homomorphism, and an input bit adds a fixed
tap before the step. Run from zero over an error pattern it computes the pattern's syndrome; a
pattern goes unnoticed exactly when the syndrome is zero. Three properties of the step and the
tap give the three classical guarantees: against short bursts, against odd numbers of errors,
and against pairs of errors within a range.
-/

/-- What one bit does: `r ↦ shift (r + tap)` when it is set, `r ↦ shift r` otherwise. -/
structure ShiftRegister (V : Type*) [AddCommGroup V] where
  shift : V →+ V
  tap : V

namespace ShiftRegister

variable {V : Type*} [AddCommGroup V] (R : ShiftRegister V)

def step (r : V) (bit : Bool) : V := R.shift (r + if bit then R.tap else 0)

/-- The register behind a list of bits. -/
def run (r : V) (bits : List Bool) : V := bits.foldl R.step r

@[simp] theorem run_nil (r : V) : R.run r [] = r := rfl

@[simp] theorem run_cons (r : V) (bit : Bool) (bits : List Bool) :
    R.run r (bit :: bits) = R.run (R.step r bit) bits := rfl

theorem run_append (r : V) (xs ys : List Bool) :
    R.run r (xs ++ ys) = R.run (R.run r xs) ys := by
  simp [run]

@[simp] theorem step_false (r : V) : R.step r false = R.shift r := by simp [step]

@[simp] theorem step_true (r : V) : R.step r true = R.shift (r + R.tap) := by simp [step]

theorem run_zeros (r : V) (n : ℕ) : R.run r (List.replicate n false) = R.shift^[n] r := by
  induction n generalizing r with
  | zero => rfl
  | succ n ih => rw [List.replicate_succ, run_cons, step_false, ih, Function.iterate_succ_apply]

/-- What the register started with is only shifted along. -/
theorem run_eq_add (r : V) (bits : List Bool) :
    R.run r bits = R.run 0 bits + R.shift^[bits.length] r := by
  induction bits generalizing r with
  | nil => simp
  | cons bit bits ih =>
    have split : R.step r bit = R.step 0 bit + R.shift r := by
      simp only [step, map_add, zero_add, add_comm]
    rw [run_cons, run_cons, ih, ih (R.step 0 bit), split, iterate_map_add, add_assoc]
    rfl

@[simp] theorem run_zero_zeros (n : ℕ) : R.run 0 (List.replicate n false) = 0 := by
  rw [run_zeros, iterate_map_zero]

/-- Zeros behind a pattern do not hide it from an injective step. -/
theorem run_append_zeros {R : ShiftRegister V} (inj : Function.Injective R.shift) (r : V)
    (bits : List Bool) (n : ℕ) :
    R.run r (bits ++ List.replicate n false) = 0 ↔ R.run r bits = 0 := by
  have zero : R.shift^[n] 0 = 0 := iterate_map_zero R.shift n
  rw [run_append, run_zeros]
  exact ⟨fun h => inj.iterate n (h.trans zero.symm), fun h => by rw [h, zero]⟩

/-- Zeros around a pattern do not hide it. -/
theorem run_surrounded {R : ShiftRegister V} (inj : Function.Injective R.shift) (a b : ℕ)
    (bits : List Bool) :
    R.run 0 (List.replicate a false ++ bits ++ List.replicate b false) = 0 ↔
      R.run 0 bits = 0 := by
  rw [run_append_zeros inj, run_append, run_zero_zeros]

/-! ## Error patterns -/

/-- All flipped bits lie in a window of `n`. -/
def Burst (n : ℕ) (bits : List Bool) : Prop :=
  ∃ a w b, bits = List.replicate a false ++ w ++ List.replicate b false ∧ w.length ≤ n

/-- If `n` bits determine their syndrome being zero, no burst of up to `n` goes unnoticed. -/
theorem burst_detected {R : ShiftRegister V} (inj : Function.Injective R.shift) {n : ℕ}
    (window : ∀ w : List Bool, w.length = n → R.run 0 w = 0 → true ∉ w) {bits : List Bool}
    (burst : Burst n bits) (some : true ∈ bits) : R.run 0 bits ≠ 0 := by
  obtain ⟨a, w, b, rfl, short⟩ := burst
  rw [Ne, run_surrounded inj]
  intro unseen
  have padded := window (w ++ List.replicate (n - w.length) false) (by simp; omega)
    ((run_append_zeros inj _ _ _).mpr unseen)
  simp at some padded
  exact padded some

/-- A parity that the step keeps counts the flipped bits. -/
theorem parity_run {R : ShiftRegister V} {parity : V →+ ZMod 2}
    (keeps : ∀ r, parity (R.shift r) = parity r) (tap : parity R.tap = 1) (r : V)
    (bits : List Bool) : parity (R.run r bits) = parity r + bits.count true := by
  induction bits generalizing r with
  | nil => simp
  | cons bit bits ih =>
    rw [run_cons, ih]
    cases bit with
    | false => simp [keeps]
    | true => simp [keeps, tap]; ring

/-- With such a parity no odd number of flipped bits goes unnoticed. -/
theorem odd_detected {R : ShiftRegister V} {parity : V →+ ZMod 2}
    (keeps : ∀ r, parity (R.shift r) = parity r) (tap : parity R.tap = 1) {bits : List Bool}
    (odd : Odd (bits.count true)) : R.run 0 bits ≠ 0 := by
  intro unseen
  have counted := parity_run keeps tap 0 bits
  rw [unseen, map_zero, zero_add, eq_comm, ZMod.natCast_eq_zero_iff_even] at counted
  exact Nat.not_even_iff_odd.mpr odd counted

/-- One flipped bit, with the zeros around it. -/
theorem exists_split_of_count {n : ℕ} {bits : List Bool} (h : bits.count true = n + 1) :
    ∃ a rest, bits = List.replicate a false ++ true :: rest ∧ rest.count true = n := by
  induction bits with
  | nil => simp at h
  | cons bit bits ih =>
    cases bit with
    | true => exact ⟨0, bits, rfl, by simpa using h⟩
    | false =>
      obtain ⟨a, rest, rfl, count⟩ := ih (by simpa using h)
      exact ⟨a + 1, rest, by simp [List.replicate_succ], count⟩

theorem eq_zeros_of_count {bits : List Bool} (h : bits.count true = 0) :
    bits = List.replicate bits.length false := by
  rw [List.count_eq_zero] at h
  exact List.eq_replicate_iff.mpr ⟨rfl, fun b hb => by cases b <;> simp_all⟩

/-- If the tap does not return to its own opposite within the range, no pair of flipped bits
goes unnoticed. -/
theorem pair_detected {R : ShiftRegister V} (inj : Function.Injective R.shift) {range : ℕ}
    (order : ∀ d, 0 < d → d < range → R.shift^[d] R.tap + R.tap ≠ 0) {bits : List Bool}
    (short : bits.length ≤ range) (pair : bits.count true = 2) : R.run 0 bits ≠ 0 := by
  obtain ⟨a, rest, rfl, one⟩ := exists_split_of_count pair
  obtain ⟨d, rest, rfl, none⟩ := exists_split_of_count one
  rw [eq_zeros_of_count none]
  have apart := order (d + 1) d.succ_pos (by simp at short; omega)
  have split : List.replicate a false ++ true :: (List.replicate d false ++
      true :: List.replicate rest.length false) =
      List.replicate a false ++ (true :: List.replicate d false ++ [true]) ++
        List.replicate rest.length false := by simp
  have syndrome : R.run 0 (true :: List.replicate d false ++ [true]) =
      R.shift (R.shift^[d + 1] R.tap + R.tap) := by
    rw [run_append]
    simp [run_zeros, Function.iterate_succ_apply]
  rw [split, Ne, run_surrounded inj, syndrome, map_eq_zero_iff _ inj]
  exact apart

end ShiftRegister
