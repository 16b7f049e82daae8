import Mathlib

/-!
# Filling a buffer through a cursor

`buf[n++] = b` and `memcpy(&buf[n], …)` with a 32-bit cursor. Memory has no end here; which offsets
were written is kept in order, so that a write behind the buffer shows. As long as the cursor does
not wrap, the offsets below it hold what was written.
-/

structure OutBuffer (β : Type*) where
  mem : ℕ → β
  touched : List ℕ
  cursor : UInt32

namespace OutBuffer

variable {β : Type*}

def start (mem : ℕ → β) : OutBuffer β := ⟨mem, [], 0⟩

/-- `buf[n++] = b`. -/
def put (o : OutBuffer β) (b : β) : OutBuffer β where
  mem := Function.update o.mem o.cursor.toNat b
  touched := o.touched ++ [o.cursor.toNat]
  cursor := o.cursor + 1

def putAll (o : OutBuffer β) (bs : List β) : OutBuffer β := bs.foldl put o

/-- `memcpy(&buf[n], bs, len)` and `n += len`. -/
def memcpy (o : OutBuffer β) (bs : List β) : OutBuffer β where
  mem k := if k < o.cursor.toNat then o.mem k else (bs[k - o.cursor.toNat]?).getD (o.mem k)
  touched := o.touched ++ (List.range bs.length).map (o.cursor.toNat + ·)
  cursor := o.cursor + UInt32.ofNat bs.length

/-- What lies below the cursor. -/
def filled (o : OutBuffer β) : List β := (List.range o.cursor.toNat).map o.mem

/-- These symbols were written, one after the other, and nothing else was. -/
structure Holds (o : OutBuffer β) (bs : List β) : Prop where
  cursor : o.cursor.toNat = bs.length
  cells : ∀ k < bs.length, bs[k]? = some (o.mem k)
  touched : o.touched = List.range bs.length

variable {o : OutBuffer β} {bs : List β}

theorem holds_start (mem : ℕ → β) : (start mem).Holds [] := ⟨rfl, by simp, rfl⟩

theorem Holds.filled_eq (h : o.Holds bs) : o.filled = bs := by
  apply List.ext_getElem?
  intro k
  rw [filled, h.cursor, List.getElem?_map]
  rcases lt_or_ge k bs.length with lt | ge
  · rw [List.getElem?_range lt, h.cells k lt]
    rfl
  · rw [List.getElem?_eq_none (by simpa using ge), List.getElem?_eq_none ge]
    rfl

theorem Holds.put (h : o.Holds bs) (b : β) (fits : bs.length + 1 < 2 ^ 32) :
    (o.put b).Holds (bs ++ [b]) := by
  refine ⟨?_, fun k lt => ?_, ?_⟩
  · rw [OutBuffer.put, UInt32.toNat_add, h.cursor, List.length_append]
    exact Nat.mod_eq_of_lt fits
  · rw [List.length_append, List.length_singleton] at lt
    rcases Nat.lt_succ_iff_lt_or_eq.mp lt with old | rfl
    · rw [List.getElem?_append_left old, h.cells k old, OutBuffer.put, h.cursor]
      exact congrArg some (Function.update_of_ne old.ne _ _).symm
    · simp [OutBuffer.put, h.cursor]
  · simp [OutBuffer.put, h.touched, h.cursor, List.range_succ]

theorem Holds.putAll (h : o.Holds bs) (cs : List β) (fits : bs.length + cs.length < 2 ^ 32) :
    (o.putAll cs).Holds (bs ++ cs) := by
  induction cs generalizing o bs with
  | nil => simpa [OutBuffer.putAll] using h
  | cons c cs ih =>
    rw [List.length_cons] at fits
    have rest := ih (h.put c (by omega)) (by simp; omega)
    simpa [OutBuffer.putAll] using rest

theorem Holds.memcpy (h : o.Holds bs) (cs : List β) (fits : bs.length + cs.length < 2 ^ 32) :
    (o.memcpy cs).Holds (bs ++ cs) := by
  refine ⟨?_, fun k lt => ?_, ?_⟩
  · rw [OutBuffer.memcpy, UInt32.toNat_add, h.cursor, UInt32.toNat_ofNat', List.length_append]
    omega
  · rw [List.length_append] at lt
    rw [OutBuffer.memcpy, h.cursor]
    dsimp only
    split_ifs with old
    · rw [List.getElem?_append_left old, h.cells k old]
    · rw [List.getElem?_append_right (not_lt.mp old), List.getElem?_eq_getElem (by omega)]
      rfl
  · simp [OutBuffer.memcpy, h.touched, h.cursor, List.range_add]

end OutBuffer
