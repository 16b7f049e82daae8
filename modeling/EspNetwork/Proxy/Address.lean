import EspNetwork.Proxy.Dial
import EspNetwork.Socks.Request

/-!
# The address of a target as text

Between a connect request and the dial the target is one string. `net.JoinHostPort` writes it and
`dialSOCKS5` of `proxy/main.go` takes it apart again; brackets in a host do not survive that.
-/

namespace EspNetwork.Proxy

open Serial (Byte Bytes)

/-! ## Digits -/

/-- A host that can stand in brackets. -/
def Bracketless (bs : Bytes) : Prop := 0x5B ∉ bs ∧ 0x5D ∉ bs

instance (bs : Bytes) : Decidable (Bracketless bs) := inferInstanceAs (Decidable (_ ∧ _))

theorem Bracketless.append {bs cs : Bytes} (h : Bracketless bs) (h' : Bracketless cs) :
    Bracketless (bs ++ cs) := by
  simp_all [Bracketless]

theorem toNat_of_mem_toDigits {n : ℕ} {c : Char} (h : c ∈ Nat.toDigits 10 n) :
    48 ≤ c.toNat ∧ c.toNat ≤ 57 := by
  have digit := Nat.isDigit_of_mem_toDigits (by omega) (by omega) h
  simp only [Char.isDigit, Bool.and_eq_true, decide_eq_true_eq, ge_iff_le,
    UInt32.le_iff_toNat_le] at digit
  exact digit

theorem atoi_sprintfD (port : UInt16) : atoi (sprintfD port) = port.toNat := by
  have values : ∀ c ∈ Nat.toDigits 10 port.toNat,
      (UInt8.ofNat c.toNat).toNat - 0x30 = c.toNat - '0'.toNat := by
    intro c hc
    have high := (toNat_of_mem_toDigits hc).2
    simp only [UInt8.toNat_ofNat']
    rw [Nat.mod_eq_of_lt (by omega)]
    rfl
  calc
    atoi (sprintfD port) = (Nat.toDigits 10 port.toNat).foldl
        (fun n c => 10 * n + ((UInt8.ofNat c.toNat).toNat - 0x30)) 0 := List.foldl_map
    _ = (Nat.toDigits 10 port.toNat).foldl (fun n c => 10 * n + (c.toNat - '0'.toNat)) 0 :=
      List.foldl_ext _ _ _ fun n c hc => by rw [values c hc]
    _ = port.toNat := by rw [← Nat.ofDigitChars_eq_foldl, Nat.ofDigitChars_ten_toDigits]

/-! ## Addresses -/

section Split

variable {front port : Bytes}

end Split

end EspNetwork.Proxy
