import EspNetwork.Base.Reader

/-!
# Copying a stream

`io.Copy` as a task that moves at each read and at each write. A write that fails may have taken
the front of its piece. What has come out is at any time the front of the content, and the whole
content when the copy has met its end.
-/

/-- How a copy ends. -/
inductive CopyEnd where
  | eof
  | readFailed
  | writeFailed
  deriving DecidableEq, Repr

/-- Where a copy stands. -/
inductive CopyPc (α : Type*) where
  | reading
  | writing (buf : List α)
  | ended (cause : CopyEnd)
  deriving DecidableEq, Repr

/-- A copy, and what it has written so far. -/
structure Copy (ρ α : Type*) where
  unread : ρ
  pc : CopyPc α
  written : List α

inductive CopyAction where
  | read (n : ℕ)
  | readFails
  | write
  /-- The writer has taken `n` symbols. -/
  | writeFails (n : ℕ)
  deriving DecidableEq, Repr

namespace Copy

variable {ρ α : Type*}

def start (r : ρ) : Copy ρ α := ⟨r, .reading, []⟩

def step (R : Reader ρ α) (c : Copy ρ α) : CopyAction → Option (Copy ρ α)
  | .read n =>
    match c.pc with
    | .reading =>
      if n = 0 then none
      else match R.read c.unread n with
        | some (piece, r) => some { c with unread := r, pc := .writing piece }
        | none => some { c with pc := .ended .eof }
    | _ => none
  | .readFails =>
    match c.pc with
    | .reading => some { c with pc := .ended .readFailed }
    | _ => none
  | .write =>
    match c.pc with
    | .writing buf => some { c with pc := .reading, written := c.written ++ buf }
    | _ => none
  | .writeFails n =>
    match c.pc with
    | .writing buf =>
      some { c with pc := .ended .writeFailed, written := c.written ++ buf.take n }
    | _ => none

/-- What is written, held and still to come is the content; a copy that failed has written its
front. -/
def Inv (R : Reader ρ α) (content : List α) (c : Copy ρ α) : Prop :=
  match c.pc with
  | .reading => c.written ++ R.content c.unread = content
  | .writing buf => c.written ++ buf ++ R.content c.unread = content
  | .ended .eof => c.written = content
  | .ended _ => c.written <+: content

variable {R : Reader ρ α} {content : List α} {c c' : Copy ρ α}

theorem inv_start (r : ρ) : Inv R (R.content r) (start r) := rfl

/-- What a step finds, and what it leaves. -/
theorem step_cases {a : CopyAction} (h : step R c a = some c') :
    (∃ n piece r, c.pc = .reading ∧ 0 < n ∧ R.read c.unread n = some (piece, r) ∧
      c' = { c with unread := r, pc := .writing piece }) ∨
    (∃ n, c.pc = .reading ∧ 0 < n ∧ R.read c.unread n = none ∧ c' = { c with pc := .ended .eof }) ∨
    (a = .readFails ∧ c.pc = .reading ∧ c' = { c with pc := .ended .readFailed }) ∨
    (∃ buf, c.pc = .writing buf ∧ c' = { c with pc := .reading, written := c.written ++ buf }) ∨
    (∃ n buf, c.pc = .writing buf ∧
      c' = { c with pc := .ended .writeFailed, written := c.written ++ buf.take n }) := by
  cases a with
  | read n =>
    cases pc : c.pc <;> simp only [step, pc, reduceCtorEq] at h
    split at h
    · cases h
    case isFalse pos =>
      split at h
      case h_1 piece r read =>
        exact .inl ⟨n, piece, r, rfl, Nat.pos_of_ne_zero pos, read, (Option.some.inj h).symm⟩
      case h_2 read =>
        exact .inr (.inl ⟨n, rfl, Nat.pos_of_ne_zero pos, read, (Option.some.inj h).symm⟩)
  | readFails =>
    cases pc : c.pc <;> simp only [step, pc, reduceCtorEq] at h
    exact .inr (.inr (.inl ⟨rfl, rfl, (Option.some.inj h).symm⟩))
  | write =>
    cases pc : c.pc <;> simp only [step, pc, reduceCtorEq] at h
    exact .inr (.inr (.inr (.inl ⟨_, rfl, (Option.some.inj h).symm⟩)))
  | writeFails n =>
    cases pc : c.pc <;> simp only [step, pc, reduceCtorEq] at h
    exact .inr (.inr (.inr (.inr ⟨n, _, rfl, (Option.some.inj h).symm⟩)))

theorem Inv.step {a : CopyAction} (inv : Inv R content c) (h : c.step R a = some c') :
    Inv R content c' := by
  unfold Inv at inv
  obtain ⟨n, piece, r, pc, pos, read, rfl⟩ | ⟨n, pc, pos, read, rfl⟩ | ⟨-, pc, rfl⟩ | ⟨buf, pc, rfl⟩ |
    ⟨n, buf, pc, rfl⟩ := step_cases h
  all_goals rw [pc] at inv
  · have more : R.content c.unread ≠ [] := by
      intro done
      rw [R.read_eq_none c.unread n done] at read
      cases read
    obtain ⟨piece', r', read', -, -, cut⟩ := R.read_eq_some c.unread n more pos
    obtain ⟨rfl, rfl⟩ : piece = piece' ∧ r = r' := by simpa [read] using read'
    change c.written ++ piece ++ R.content r = content
    rw [List.append_assoc, ← cut]
    exact inv
  · have done : R.content c.unread = [] := by
      by_contra more
      obtain ⟨piece, r, read', -⟩ := R.read_eq_some c.unread n more pos
      rw [read] at read'
      cases read'
    change c.written = content
    simpa [done] using inv
  · exact ⟨_, inv⟩
  · exact inv
  · refine ⟨buf.drop n ++ R.content c.unread, ?_⟩
    change c.written ++ buf.take n ++ (buf.drop n ++ R.content c.unread) = content
    rw [← inv, List.append_assoc, List.append_assoc, ← List.append_assoc (buf.take n),
      List.take_append_drop]

/-- The bytes come out in order, from the first one on. -/
theorem Inv.written_front (inv : Inv R content c) : c.written <+: content := by
  unfold Inv at inv
  split at inv
  · exact ⟨_, inv⟩
  · exact ⟨_, (List.append_assoc _ _ _).symm.trans inv⟩
  · exact inv ▸ List.prefix_rfl
  · exact inv

theorem Inv.written_eq (inv : Inv R content c) (eof : c.pc = .ended .eof) : c.written = content := by
  simpa [Inv, eof] using inv

end Copy
