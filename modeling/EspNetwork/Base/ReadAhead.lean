import EspNetwork.Base.Reader

/-!
# Reading ahead

A buffered reader asks for as much as it has room for, until what it has taken holds a whole
message. What it has taken beyond the message is left over, and stands in front of what is still to
come. Neither the message nor this stream depends on how the reader cuts its content.
-/

/-- A parser that sees a message as soon as it is whole, and stays with it whatever follows. -/
structure Scanner (α β : Type*) where
  parse : List α → Option (β × ℕ)
  takes : ∀ {as m n}, parse as = some (m, n) → n ≤ as.length
  settled : ∀ {as m n}, parse as = some (m, n) → ∀ more, parse (as ++ more) = some (m, n)

namespace Scanner

variable {α β : Type*}

/-- What stands behind the message; nothing, where the stream ends before it does. -/
def behind (P : Scanner α β) (stream : List α) : List α :=
  match P.parse stream with
  | some (_, n) => stream.drop n
  | none => []

end Scanner

namespace Reader

variable {ρ α β : Type*}

/-- Read until a message is there. `room` is what is free in the buffer, behind a first place. -/
def readAhead.go (R : Reader ρ α) (P : Scanner α β) (room : List α → ℕ) :
    ℕ → List α → ρ → Except ρ (β × List α × ρ)
  | calls, taken, r =>
    match P.parse taken, calls with
    | some (m, n), _ => .ok (m, taken.drop n, r)
    | none, 0 => .error r
    | none, calls + 1 =>
      match R.read r (room taken + 1) with
      | none => .error r
      | some (piece, r') => readAhead.go R P room calls (taken ++ piece) r'

/-- The message, what was taken beyond it, and the reader. The first of the message may be in the
buffer already; where the stream ends before the message, the reader stands at its end. -/
def readAhead (R : Reader ρ α) (P : Scanner α β) (room : List α → ℕ) (buffer : List α) (r : ρ) :
    Except ρ (β × List α × ρ) := readAhead.go R P room (R.content r).length buffer r

/-- Read over a message, or to the end of the stream: what is in the buffer behind it, and the
reader. -/
def skip (R : Reader ρ α) (P : Scanner α β) (room : List α → ℕ) (c : List α × ρ) : List α × ρ :=
  match R.readAhead P room c.1 c.2 with
  | .ok (_, left, r) => (left, r)
  | .error r => ([], r)

variable (R : Reader ρ α) (P : Scanner α β) (room : List α → ℕ)

/-- The result of reading ahead, by what the whole stream holds. -/
def Ahead (stream : List α) : Except ρ (β × List α × ρ) → Prop
  | .error r' => P.parse stream = none ∧ R.content r' = []
  | .ok (m, left, r') =>
    ∃ n, P.parse stream = some (m, n) ∧ left ++ R.content r' = stream.drop n

theorem ahead_of_parse {taken : List α} {m : β} {n : ℕ} (parsed : P.parse taken = some (m, n))
    (r : ρ) : Ahead R P (taken ++ R.content r) (.ok (m, taken.drop n, r)) :=
  ⟨n, P.settled parsed _, (List.drop_append_of_le_length (P.takes parsed)).symm⟩

theorem ahead_go {calls : ℕ} {taken : List α} {r : ρ} (enough : (R.content r).length ≤ calls) :
    Ahead R P (taken ++ R.content r) (readAhead.go R P room calls taken r) := by
  induction calls generalizing taken r with
  | zero =>
    have done : R.content r = [] := List.length_eq_zero_iff.mp (by omega)
    unfold readAhead.go
    cases parsed : P.parse taken with
    | none => simpa [Ahead, done] using parsed
    | some message => exact ahead_of_parse R P parsed r
  | succ calls ih =>
    unfold readAhead.go
    cases parsed : P.parse taken with
    | some message => exact ahead_of_parse R P parsed r
    | none =>
      by_cases done : R.content r = []
      · simpa [R.read_eq_none r _ done, Ahead, done] using parsed
      · obtain ⟨piece, r', read, more, -, cut⟩ := R.read_eq_some r (room taken + 1) done (by omega)
        have shorter : (R.content r').length ≤ calls := by
          have size := congrArg List.length cut
          have pos := List.length_pos_iff.mpr more
          rw [List.length_append] at size
          omega
        have later := @ih (taken ++ piece) r' shorter
        simpa [read, cut] using later

theorem ahead_readAhead (buffer : List α) (r : ρ) :
    Ahead R P (buffer ++ R.content r) (R.readAhead P room buffer r) := ahead_go R P room le_rfl

/-- There is a message if the stream holds one. -/
theorem readAhead_isOk {buffer : List α} {r : ρ} {m : β} {n : ℕ}
    (parsed : P.parse (buffer ++ R.content r) = some (m, n)) :
    ∃ left r', R.readAhead P room buffer r = .ok (m, left, r') := by
  have ahead := ahead_readAhead R P room buffer r
  cases found : R.readAhead P room buffer r with
  | error r' =>
    rw [found, Ahead, parsed] at ahead
    cases ahead.1
  | ok result =>
    obtain ⟨m', left, r'⟩ := result
    rw [found] at ahead
    obtain ⟨n', parsed', -⟩ := ahead
    obtain ⟨rfl, -⟩ : m = m' ∧ n = n' := by simpa [parsed] using parsed'
    exact ⟨left, r', rfl⟩

/-- What was left over goes on where the message ends. -/
theorem readAhead_content {buffer left : List α} {r r' : ρ} {m : β}
    (found : R.readAhead P room buffer r = .ok (m, left, r')) :
    ∃ n, P.parse (buffer ++ R.content r) = some (m, n) ∧
      left ++ R.content r' = (buffer ++ R.content r).drop n := by
  have ahead := ahead_readAhead R P room buffer r
  rw [found] at ahead
  exact ahead

/-- Whoever reads over a message reads on behind it. -/
theorem content_skip (c : List α × ρ) :
    R.multi.content (R.skip P room c) = P.behind (R.multi.content c) := by
  obtain ⟨buffer, r⟩ := c
  have ahead := ahead_readAhead R P room buffer r
  change _ = P.behind (buffer ++ R.content r)
  unfold skip Scanner.behind
  cases found : R.readAhead P room buffer r with
  | error r' =>
    rw [found] at ahead
    simp [multi, ahead.1, ahead.2]
  | ok result =>
    obtain ⟨m, left, r'⟩ := result
    rw [found] at ahead
    obtain ⟨n, parsed, rest⟩ := ahead
    simp [multi, parsed, rest]

end Reader
