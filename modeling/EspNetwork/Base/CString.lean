import Mathlib

/-!
# C strings in arrays of a fixed size

A `char` array keeps its size. Its string is what stands before its first NUL, or the whole
array when there is none. Copies into an array and reads through a pointer are checked: an
access outside the array is a fault.
-/

/-- An access outside an array. -/
inductive MemFault where
  | read
  | write
  deriving DecidableEq, Repr

theorem Except.ok_bind {ε α β : Type} (a : α) (f : α → Except ε β) : (Except.ok a >>= f) = f a :=
  rfl

theorem Except.error_bind {ε α β : Type} (e : ε) (f : α → Except ε β) :
    (Except.error e >>= f) = .error e := rfl

/-! ## Strings -/

/-- The characters of a string, without its terminator. -/
structure CString where
  chars : List UInt8
  noNul : 0 ∉ chars
  deriving DecidableEq

namespace CString

@[ext] theorem ext {s t : CString} (h : s.chars = t.chars) : s = t := by
  cases s; cases t; simpa using h

def length (s : CString) : ℕ := s.chars.length

theorem nul_notMem_takeWhile (bs : List UInt8) : 0 ∉ bs.takeWhile (· ≠ 0) := by
  intro h
  simpa using List.mem_takeWhile_imp h

/-- The bytes up to the first NUL. -/
def ofBytes (bs : List UInt8) : CString := ⟨bs.takeWhile (· ≠ 0), nul_notMem_takeWhile bs⟩

@[simp] theorem chars_ofBytes (bs : List UInt8) : (ofBytes bs).chars = bs.takeWhile (· ≠ 0) := rfl

theorem length_ofBytes_le (bs : List UInt8) : (ofBytes bs).length ≤ bs.length :=
  (List.takeWhile_prefix _).length_le

theorem ofBytes_eq_iff {bs : List UInt8} : (ofBytes bs).chars = bs ↔ 0 ∉ bs := by
  simp only [chars_ofBytes, List.takeWhile_eq_self_iff]
  constructor
  · intro h mem
    simpa using h 0 mem
  · intro h b mem
    simp only [ne_eq, decide_eq_true_eq]
    rintro rfl
    exact h mem

/-- A NUL hides what follows it. -/
theorem ofBytes_append_nul (bs more : List UInt8) : ofBytes (bs ++ 0 :: more) = ofBytes bs := by
  ext1
  induction bs with
  | nil => simp
  | cons b bs ih =>
    by_cases h : b = 0
    · simp [h]
    · simpa [h] using ih

theorem ofBytes_append_zeros (bs : List UInt8) (n : ℕ) :
    ofBytes (bs ++ List.replicate n 0) = ofBytes bs := by
  cases n with
  | zero => simp
  | succ n => exact ofBytes_append_nul bs _

@[simp] theorem ofBytes_chars (s : CString) : ofBytes s.chars = s :=
  ext (ofBytes_eq_iff.mpr s.noNul)

theorem length_ofBytes_eq_zero {bs : List UInt8} :
    (ofBytes bs).length = 0 ↔ bs = [] ∨ bs.head? = some 0 := by
  cases bs with
  | nil => simp [ofBytes, length]
  | cons b bs =>
    by_cases h : b = 0 <;> simp [ofBytes, length, h]

/-- The string cut after `n` characters. -/
def take (s : CString) (n : ℕ) : CString :=
  ⟨s.chars.take n, fun h => s.noNul (List.mem_of_mem_take h)⟩

theorem take_eq_iff {s : CString} {n : ℕ} : s.take n = s ↔ s.length ≤ n := by
  rw [CString.ext_iff]
  exact List.take_eq_self_iff _

def empty : CString := ⟨[], by simp⟩

end CString

/-- A `const char *` argument, by what stands behind it. -/
inductive CharPtr where
  | null
  | string (s : CString)
  | unterminated

/-- `strlen` and every other walk to the terminator. -/
def CharPtr.read : CharPtr → Except MemFault CString
  | .string s => .ok s
  | .null | .unterminated => .error .read

/-- A NUL is left in a cleared array of `size` characters to which `bytes` were copied. -/
def Terminates (size : ℕ) (bytes : List UInt8) : Prop := bytes.length < size ∨ 0 ∈ bytes

instance (size : ℕ) (bytes : List UInt8) : Decidable (Terminates size bytes) :=
  inferInstanceAs (Decidable (bytes.length < size ∨ 0 ∈ bytes))

theorem CString.length_ofBytes_lt {size : ℕ} {bytes : List UInt8} (h : Terminates size bytes)
    (fits : bytes.length ≤ size) : (ofBytes bytes).length < size := by
  have le := length_ofBytes_le bytes
  rcases h with short | nul
  · omega
  · by_contra full
    have whole : (ofBytes bytes).chars = bytes :=
      (List.takeWhile_prefix _).eq_of_length (show (ofBytes bytes).length = _ by omega)
    exact ofBytes_eq_iff.mp whole nul

/-- That array as an argument. -/
def CharPtr.inArray (size : ℕ) (bytes : List UInt8) : CharPtr :=
  if Terminates size bytes then .string (.ofBytes bytes) else .unterminated

/-- `p ? p : ""`. -/
def CharPtr.orEmpty : CharPtr → Except MemFault CString
  | .null => .ok .empty
  | p => p.read

/-! ## Arrays -/

structure CharArray (size : ℕ) where
  cells : List UInt8
  length_cells : cells.length = size
  deriving DecidableEq

namespace CharArray

variable {size : ℕ}

/-- `char a[size] = {0}`. -/
def zero (size : ℕ) : CharArray size := ⟨List.replicate size 0, by simp⟩

/-- The string in the array, at most the whole of it. -/
def str (a : CharArray size) : CString := CString.ofBytes a.cells

/-- Some character of the array ends its string. -/
def Terminated (a : CharArray size) : Prop := 0 ∈ a.cells

instance (a : CharArray size) : Decidable a.Terminated :=
  inferInstanceAs (Decidable (0 ∈ a.cells))

/-- The array as an argument. -/
def ptr (a : CharArray size) : CharPtr := if a.Terminated then .string a.str else .unterminated

def strlen (a : CharArray size) : Except MemFault ℕ :=
  if a.Terminated then .ok a.str.length else .error .read

/-- `memcpy(a, src, n)` for the `n` bytes of `src`. -/
def memcpy (a : CharArray size) (src : List UInt8) : Except MemFault (CharArray size) :=
  if h : src.length ≤ size then
    .ok ⟨src ++ a.cells.drop src.length, by simp [a.length_cells]; omega⟩
  else .error .write

/-- `a[i] = c`. -/
def put (a : CharArray size) (i : ℕ) (c : UInt8) : Except MemFault (CharArray size) :=
  if i < size then .ok ⟨a.cells.set i c, by simp [a.length_cells]⟩ else .error .write

/-- `strncpy(a, s, n)`: at most `n` characters, and NULs up to `n`. -/
def strncpy (a : CharArray size) (s : CString) (n : ℕ) (fits : n ≤ size) : CharArray size :=
  ⟨(s.chars ++ List.replicate n 0).take n ++ a.cells.drop n, by simp [a.length_cells]; omega⟩

/-- The string with its terminator, over the front of the array. -/
def store (a : CharArray size) (s : CString) (fits : s.length < size) : CharArray size :=
  ⟨s.chars ++ 0 :: a.cells.drop (s.length + 1), by
    have : s.chars.length < size := fits
    simp [a.length_cells, CString.length]
    omega⟩

theorem memcpy_of_le (a : CharArray size) {src : List UInt8} (h : src.length ≤ size) :
    ∃ c, a.memcpy src = .ok c ∧ c.cells = src ++ a.cells.drop src.length := by
  simp [memcpy, h]

theorem memcpy_of_lt (a : CharArray size) {src : List UInt8} (h : size < src.length) :
    a.memcpy src = .error .write := by
  simp [memcpy, h]

theorem put_of_lt (a : CharArray size) {i : ℕ} (c : UInt8) (h : i < size) :
    ∃ d, a.put i c = .ok d ∧ d.cells = a.cells.set i c := by
  simp [put, h]

/-- Bytes copied into a cleared array, as a callee reads them. -/
theorem memcpy_zero {src : List UInt8} (h : src.length ≤ size) :
    ∃ c, (zero size).memcpy src = .ok c ∧
      c.ptr = .inArray size src := by
  obtain ⟨c, copied, cells⟩ := (zero size).memcpy_of_le h
  have padded : c.cells = src ++ List.replicate (size - src.length) 0 := by simp [cells, zero]
  have str : c.str = .ofBytes src := by rw [CharArray.str, padded, CString.ofBytes_append_zeros]
  have terminated : c.Terminated ↔ Terminates size src := by
    simp only [Terminated, Terminates, padded, List.mem_append, List.mem_replicate]
    grind
  exact ⟨c, copied, by simp [ptr, CharPtr.inArray, terminated, str]⟩

theorem str_store (a : CharArray size) (s : CString) (fits : s.length < size) :
    (a.store s fits).str = s := by
  simp [str, store, CString.ofBytes_append_nul]

theorem terminated_store (a : CharArray size) (s : CString) (fits : s.length < size) :
    (a.store s fits).Terminated := by
  simp [Terminated, store]

theorem strlen_store (a : CharArray size) (s : CString) (fits : s.length < size) :
    (a.store s fits).strlen = .ok s.length := by
  simp [strlen, terminated_store, str_store]

theorem take_store (a : CharArray size) (s : CString) (fits : s.length < size) :
    (a.store s fits).cells.take s.length = s.chars :=
  List.take_left' rfl

theorem take_strncpy (s : CString) (n : ℕ) :
    (s.chars ++ List.replicate n 0).take n =
      (s.take n).chars ++ List.replicate (n - s.length) 0 := by
  rw [List.take_append, List.take_replicate, CString.length, CString.take]
  congr 2
  omega

/-- What `strncpy` leaves in a cleared array is the string, cut after `n` characters. -/
theorem str_strncpy_zero (s : CString) {n : ℕ} (fits : n ≤ size) :
    ((zero size).strncpy s n fits).str = s.take n := by
  have rest : (zero size).cells.drop n = List.replicate (size - n) 0 := by simp [zero]
  have cells : ((zero size).strncpy s n fits).cells =
      (s.take n).chars ++ List.replicate (n - s.length + (size - n)) 0 := by
    simp [strncpy, take_strncpy, rest]
  rw [str, cells, CString.ofBytes_append_zeros, CString.ofBytes_chars]

/-- `strncpy` and a NUL in the last cell leave the string, cut and terminated, whatever was in
the array. -/
theorem strncpy_put_last {n : ℕ} (a : CharArray (n + 1)) (s : CString) (fits : n ≤ n + 1) :
    ∃ c, (a.strncpy s n fits).put n 0 = .ok c ∧ c.Terminated ∧ c.str = s.take n := by
  obtain ⟨c, written, cells⟩ := (a.strncpy s n fits).put_of_lt 0 (Nat.lt_succ_self n)
  obtain ⟨last, single⟩ : ∃ last, a.cells.drop n = [last] :=
    List.length_eq_one_iff.mp (by simp [a.length_cells])
  have size : ((s.chars ++ List.replicate n 0).take n).length = n := by simp
  have ended : c.cells = (s.take n).chars ++ List.replicate (n - s.length + 1) 0 := by
    have before : (a.strncpy s n fits).cells =
        (s.chars ++ List.replicate n 0).take n ++ [last] := by rw [← single]; rfl
    rw [cells, before, List.set_append_right _ _ size.le, size, take_strncpy, List.replicate_succ']
    simp
  refine ⟨c, written, ?_, ?_⟩
  · simp [Terminated, ended]
  · rw [str, ended, CString.ofBytes_append_zeros, CString.ofBytes_chars]

/-- The cells up to the end of the string. -/
theorem take_length_str (a : CharArray size) : a.cells.take a.str.length = a.str.chars :=
  (List.prefix_iff_eq_take.mp (List.takeWhile_prefix _)).symm

end CharArray

/-! ## Reads from a received buffer -/

/-- `buf[p]`. -/
def readByte (buf : List UInt8) (p : ℕ) : Except MemFault UInt8 :=
  if h : p < buf.length then .ok buf[p] else .error .read

/-- The `n` bytes a `memcpy` reads from `&buf[p]`. -/
def readBytes (buf : List UInt8) (p n : ℕ) : Except MemFault (List UInt8) :=
  if p + n ≤ buf.length then .ok ((buf.drop p).take n) else .error .read

theorem readBytes_of_le {buf : List UInt8} {p n : ℕ} (h : p + n ≤ buf.length) :
    readBytes buf p n = .ok ((buf.drop p).take n) := by
  simp [readBytes, h]
