/-
Words and addresses as strings of bytes.

Both are numbers in fields of fixed width, 32 and 20 bytes, so each is known from its bytes.
A word whose first twelve bytes are zero and an address with the bytes behind them are one
number (`Word.bytes_eq_iff`). Checked arithmetic on words is arithmetic on these numbers, with
no result where the exact one is not below `2 ^ 256`.
-/
import Rollup.Address
import Rollup.Proofs.Bytes

set_option autoImplicit false

namespace Rollup

namespace Address

/-- Addresses are the same if their numbers are. -/
theorem ext_toNat {a b : Address} (h : a.bits.toNat = b.bits.toNat) : a = b := by
  have hbits := BitVec.eq_of_toNat_eq h
  cases a
  cases b
  exact congrArg Address.mk hbits

theorem toNat_lt (a : Address) : a.bits.toNat < 256 ^ 20 := a.bits.isLt

@[simp] theorem length_bytes (a : Address) : a.bytes.length = 20 := Bytes.length_bigEndian 20 _

@[simp] theorem value_bytes (a : Address) : Bytes.value a.bytes = a.bits.toNat := by
  rw [bytes, Bytes.value_bigEndian, Nat.mod_eq_of_lt a.toNat_lt]

theorem bytes_injective {a b : Address} (h : a.bytes = b.bytes) : a = b := by
  apply ext_toNat
  rw [← a.value_bytes, h, b.value_bytes]

/-- Twenty bytes are the bytes of one address, the one read from them. -/
theorem ofBytes_eq_iff {bytes : Bytes} (h : bytes.length = 20) {a : Address} :
    ofBytes bytes = a ↔ bytes = a.bytes := by
  have hlt : Bytes.value bytes < 2 ^ 160 := by
    have hvalue := Bytes.value_lt bytes
    rwa [h] at hvalue
  have hbytes : (ofBytes bytes).bytes = bytes := by
    have hnat : (ofBytes bytes).bits.toNat = Bytes.value bytes := Nat.mod_eq_of_lt hlt
    rw [Address.bytes, hnat, ← h, Bytes.bigEndian_value]
  constructor
  · rintro rfl
    exact hbytes.symm
  · intro ha
    apply bytes_injective
    rw [hbytes, ha]

end Address

namespace Word

theorem toNat_lt (w : Word) : w.toNat < 256 ^ 32 := w.isLt

@[simp] theorem length_bytes (w : Word) : w.bytes.length = 32 := Bytes.length_bigEndian 32 _

@[simp] theorem value_bytes (w : Word) : Bytes.value w.bytes = w.toNat := by
  rw [bytes, Bytes.value_bigEndian, Nat.mod_eq_of_lt (toNat_lt w)]

/-- No more than 32 bytes are the word of their value. -/
theorem toNat_ofBytes {bytes : Bytes} (h : bytes.length ≤ 32) :
    (ofBytes bytes).toNat = Bytes.value bytes := by
  have hle : 256 ^ bytes.length ≤ 2 ^ 256 := Nat.pow_le_pow_right (by decide : 0 < 256) h
  exact Nat.mod_eq_of_lt (Nat.lt_of_lt_of_le (Bytes.value_lt bytes) hle)

theorem bytes_injective {a b : Word} (h : a.bytes = b.bytes) : a = b := by
  apply BitVec.eq_of_toNat_eq
  rw [← value_bytes, h, value_bytes]

/-- A word has the bytes of an address behind twelve zeros exactly if it is the same number. -/
theorem bytes_eq_iff {w : Word} {a : Address} :
    w.bytes = List.replicate 12 0 ++ a.bytes ↔ w.toNat = a.bits.toNat := by
  have hvalue : Bytes.value (List.replicate 12 0 ++ a.bytes) = a.bits.toNat := by
    rw [Bytes.value_zeros_append, a.value_bytes]
  constructor
  · intro h
    rw [← value_bytes, h, hvalue]
  · intro h
    apply Bytes.eq_of_value_eq
    · rw [length_bytes, List.length_append, List.length_replicate, Address.length_bytes]
    · rw [value_bytes, hvalue, h]

/-! ## Checked arithmetic -/

/-- A number is a word if some word has it. -/
theorem ofNat?_eq_some_iff {n : Nat} {w : Word} : ofNat? n = some w ↔ w.toNat = n := by
  constructor
  · exact toNat_of_ofNat?
  · rintro rfl
    exact ofNat?_toNat w

/-- A sum is exact, or there is none. -/
theorem add?_eq_some_iff {a b w : Word} : add? a b = some w ↔ w.toNat = a.toNat + b.toNat :=
  ofNat?_eq_some_iff

/-- A product is exact, or there is none. -/
theorem mul?_eq_some_iff {a b w : Word} : mul? a b = some w ↔ w.toNat = a.toNat * b.toNat :=
  ofNat?_eq_some_iff

/-- There is a word for every number below the limit, and for no other. -/
theorem exists_toNat_eq_iff {n : Nat} : (∃ w : Word, w.toNat = n) ↔ n < 2 ^ 256 := by
  constructor
  · rintro ⟨w, rfl⟩
    exact w.isLt
  · exact fun h => ⟨BitVec.ofNat 256 n, Nat.mod_eq_of_lt h⟩

end Word

end Rollup
