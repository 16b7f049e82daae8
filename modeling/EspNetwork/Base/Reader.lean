import Mathlib

/-!
# Readers that return pieces, and reading a fixed amount

A reader returns what it has, at most as much as was asked for, and something whenever more
is to come. `readFull` repeats the call until the request is filled. Its result depends only
on the content still to come, never on how the reader cuts it.
-/

/-- A blocking reader over a finite content; `none` is the end of the stream. -/
structure Reader (ρ α : Type*) where
  read : ρ → Nat → Option (List α × ρ)
  content : ρ → List α
  read_eq_none : ∀ r n, content r = [] → read r n = none
  read_eq_some : ∀ r n, content r ≠ [] → 0 < n → ∃ piece r', read r n = some (piece, r') ∧
    piece ≠ [] ∧ piece.length ≤ n ∧ content r = piece ++ content r'

namespace Reader

variable {ρ α : Type*}

/-- Repeat `read` until `n` symbols are there. Every call returns at least one symbol, so `n`
calls are enough. -/
def readFull.go (R : Reader ρ α) : Nat → Nat → ρ → Option (List α × ρ)
  | _, 0, r => some ([], r)
  | 0, _ + 1, _ => none
  | calls + 1, n + 1, r =>
    match R.read r (n + 1) with
    | none => none
    | some (piece, r') =>
      (readFull.go R calls (n + 1 - piece.length) r').map fun q => (piece ++ q.1, q.2)

/-- Exactly `n` symbols, or `none` when the stream ends before. -/
def readFull (R : Reader ρ α) (r : ρ) (n : Nat) : Option (List α × ρ) := readFull.go R n n r

theorem readFull_go_short (R : Reader ρ α) {calls n : Nat} {r : ρ}
    (short : (R.content r).length < n) : readFull.go R calls n r = none := by
  induction calls generalizing n r with
  | zero =>
    cases n with
    | zero => simp at short
    | succ n => rfl
  | succ calls ih =>
    cases n with
    | zero => simp at short
    | succ n =>
      by_cases empty : R.content r = []
      · simp [readFull.go, R.read_eq_none r (n + 1) empty]
      · obtain ⟨piece, r', hread, hne, hle, hcut⟩ := R.read_eq_some r (n + 1) empty (by omega)
        have rest : (R.content r').length < n + 1 - piece.length := by
          have := congrArg List.length hcut
          simp at this; omega
        simp [readFull.go, hread, ih rest]

theorem readFull_go_full (R : Reader ρ α) {calls n : Nat} {r : ρ}
    (enough : n ≤ (R.content r).length) (hcalls : n ≤ calls) :
    ∃ r', readFull.go R calls n r = some ((R.content r).take n, r') ∧
      R.content r' = (R.content r).drop n := by
  induction calls generalizing n r with
  | zero =>
    obtain rfl : n = 0 := by omega
    exact ⟨r, by simp [readFull.go], by simp⟩
  | succ calls ih =>
    cases n with
    | zero => exact ⟨r, by simp [readFull.go], by simp⟩
    | succ n =>
      have some_content : R.content r ≠ [] := by
        intro h
        simp [h] at enough
      obtain ⟨piece, r', hread, hne, hle, hcut⟩ := R.read_eq_some r (n + 1) some_content (by omega)
      have pos : 0 < piece.length := List.length_pos_iff.mpr hne
      have size := congrArg List.length hcut
      simp only [List.length_append] at size
      obtain ⟨r'', hgo, hrest⟩ := ih (n := n + 1 - piece.length) (r := r') (by omega) (by omega)
      refine ⟨r'', ?_, ?_⟩
      · simp only [readFull.go, hread, hgo, Option.map_some, hcut]
        rw [List.take_append, List.take_of_length_le hle]
      · rw [hrest, hcut, List.drop_append, List.drop_of_length_le hle, List.nil_append]

/-- The stream ends inside the request. -/
theorem readFull_eq_none (R : Reader ρ α) {r : ρ} {n : Nat}
    (short : (R.content r).length < n) : R.readFull r n = none := readFull_go_short R short

/-- The request is filled with the next `n` symbols and the reader stands behind them. -/
theorem readFull_eq_some (R : Reader ρ α) {r : ρ} {n : Nat}
    (enough : n ≤ (R.content r).length) :
    ∃ r', R.readFull r n = some ((R.content r).take n, r') ∧
      R.content r' = (R.content r).drop n :=
  readFull_go_full R enough le_rfl

/-- What was read before, in front of the rest. -/
def multi (R : Reader ρ α) : Reader (List α × ρ) α where
  read
    | ([], r), n => (R.read r n).map fun (piece, r') => (piece, ([], r'))
    | (a :: as, r), n => some ((a :: as).take n, ((a :: as).drop n, r))
  content p := p.1 ++ R.content p.2
  read_eq_none
    | ([], r), n, done => by simp [R.read_eq_none r n done]
    | (a :: as, r), n, done => by simp at done
  read_eq_some
    | ([], r), n, more, pos => by
      obtain ⟨piece, r', hread, hne, hle, hcut⟩ := R.read_eq_some r n more pos
      exact ⟨piece, ([], r'), by simp [hread], hne, hle, hcut⟩
    | (a :: as, r), n, more, pos => by
      refine ⟨_, _, rfl, ?_, List.length_take_le _ _, ?_⟩
      · simp
        omega
      · rw [← List.append_assoc, List.take_append_drop]

end Reader
