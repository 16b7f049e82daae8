import Mathlib

/-!
# Self-delimiting codes

A decoder takes one value off the front of a stream. If it inverts the encoder whatever
follows, and returns nothing on a proper prefix of an encoding, then a concatenation of
encodings is read back value by value, and a stream that was cut anywhere yields exactly the
values that are complete in it.
-/

/-- An encoder and a decoder of the front of a stream, for the values in `Valid`. -/
structure PrefixCode (α β : Type*) where
  Valid : α → Prop
  encode : α → List β
  decode : List β → Option (α × List β)
  decode_encode : ∀ a rest, Valid a → decode (encode a ++ rest) = some (a, rest)
  decode_cut : ∀ a cut, Valid a → cut <+: encode a → cut ≠ encode a → decode cut = none
  decode_shrinks : ∀ {bs a rest}, decode bs = some (a, rest) → rest.length < bs.length

namespace PrefixCode

variable {α β : Type*}

/-- Decode values until the stream ends or holds no complete one. -/
def decodeAll (C : PrefixCode α β) (bs : List β) : List α :=
  match _h : C.decode bs with
  | none => []
  | some (a, rest) => a :: C.decodeAll rest
termination_by bs.length
decreasing_by exact C.decode_shrinks _h

theorem decodeAll_of_none (C : PrefixCode α β) {bs : List β} (h : C.decode bs = none) :
    C.decodeAll bs = [] := by
  rw [decodeAll]
  split <;> simp_all

theorem decodeAll_of_some (C : PrefixCode α β) {bs rest : List β} {a : α}
    (h : C.decode bs = some (a, rest)) : C.decodeAll bs = a :: C.decodeAll rest := by
  rw [decodeAll]
  split <;> simp_all

/-- What is left where `decodeAll` stops: nothing, or a cut-off encoding. -/
def rest (C : PrefixCode α β) (bs : List β) : List β :=
  match _h : C.decode bs with
  | none => bs
  | some (_, rest) => C.rest rest
termination_by bs.length
decreasing_by exact C.decode_shrinks _h

theorem rest_of_none (C : PrefixCode α β) {bs : List β} (h : C.decode bs = none) :
    C.rest bs = bs := by
  rw [rest]
  split <;> simp_all

theorem rest_of_some (C : PrefixCode α β) {bs rest : List β} {a : α}
    (h : C.decode bs = some (a, rest)) : C.rest bs = C.rest rest := by
  rw [PrefixCode.rest]
  split <;> simp_all

def encodeAll (C : PrefixCode α β) (as : List α) : List β := (as.map C.encode).flatten

@[simp] theorem encodeAll_cons (C : PrefixCode α β) (a : α) (as : List α) :
    C.encodeAll (a :: as) = C.encode a ++ C.encodeAll as := rfl

/-- Complete values at the front come out first, whatever follows them. -/
theorem decodeAll_encodeAll_append (C : PrefixCode α β) {as : List α}
    (valid : ∀ a ∈ as, C.Valid a) (rest : List β) :
    C.decodeAll (C.encodeAll as ++ rest) = as ++ C.decodeAll rest := by
  induction as with
  | nil => rfl
  | cons a as ih =>
    rw [encodeAll_cons, List.append_assoc,
      C.decodeAll_of_some (C.decode_encode a _ (valid a (by simp))),
      ih fun b hb => valid b (by simp [hb])]
    rfl

/-- A stream that ends inside an encoding yields the values before it and no more. -/
theorem decodeAll_cut (C : PrefixCode α β) {as : List α} {a : α} {cut : List β}
    (valid : ∀ b ∈ as, C.Valid b) (ha : C.Valid a) (short : cut <+: C.encode a)
    (proper : cut ≠ C.encode a) : C.decodeAll (C.encodeAll as ++ cut) = as := by
  rw [C.decodeAll_encodeAll_append valid, C.decodeAll_of_none (C.decode_cut a cut ha short proper),
    List.append_nil]

theorem decode_nil (C : PrefixCode α β) : C.decode [] = none := by
  cases h : C.decode [] with
  | none => rfl
  | some p => exact absurd (C.decode_shrinks h) (by simp)

/-- The whole stream yields all the values. -/
theorem decodeAll_encodeAll (C : PrefixCode α β) {as : List α} (valid : ∀ a ∈ as, C.Valid a) :
    C.decodeAll (C.encodeAll as) = as := by
  simpa [C.decodeAll_of_none C.decode_nil] using C.decodeAll_encodeAll_append valid []

@[simp] theorem encodeAll_nil (C : PrefixCode α β) : C.encodeAll [] = [] := rfl

/-- A stream cut anywhere yields the first values, all of them complete in it. -/
theorem decodeAll_prefix (C : PrefixCode α β) {as : List α} {cut : List β}
    (valid : ∀ a ∈ as, C.Valid a) (short : cut <+: C.encodeAll as) :
    C.decodeAll cut <+: as ∧ C.encodeAll (C.decodeAll cut) <+: cut := by
  induction as generalizing cut with
  | nil =>
    obtain rfl : cut = [] := by simpa using short
    simp [C.decodeAll_of_none C.decode_nil]
  | cons a as ih =>
    rw [encodeAll_cons] at short
    by_cases complete : C.encode a <+: cut
    · obtain ⟨more, rfl⟩ := complete
      have rest : more <+: C.encodeAll as := (List.prefix_append_right_inj _).mp short
      obtain ⟨first, inside⟩ := ih (fun b hb => valid b (by simp [hb])) rest
      rw [C.decodeAll_of_some (C.decode_encode a more (valid a (by simp))), encodeAll_cons]
      exact ⟨List.cons_prefix_cons.mpr ⟨rfl, first⟩, (List.prefix_append_right_inj _).mpr inside⟩
    · have inside : cut <+: C.encode a :=
        (List.prefix_or_prefix_of_prefix short (List.prefix_append _ _)).resolve_right complete
      have proper : cut ≠ C.encode a := by
        rintro rfl
        exact complete List.prefix_rfl
      rw [C.decodeAll_of_none (C.decode_cut a cut (valid a (by simp)) inside proper)]
      exact ⟨List.nil_prefix, List.nil_prefix⟩

end PrefixCode
