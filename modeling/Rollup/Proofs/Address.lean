/-
An address is read from every text that spells it, and what is written for it is one of them.

In mixed case, the case of a letter comes from the hash of the digits, one digit of the hash for
each of them. Reading does not look at the case, so the only question is whether the hash has a
digit for every place: an address has 40 digits, and the hash has 64 because every layer of a round
keeps the 25 lanes of the state.
-/
import Rollup.Proofs.Bytes.Hex
import Rollup.Proofs.Word

set_option autoImplicit false

namespace Rollup

/-! ## The length of a hash -/

namespace Keccak

@[simp] theorem length_build (f : Nat → UInt64) : (build f).length = 25 := by simp [build]

@[simp] theorem length_iota (constant : UInt64) (s : State) :
    (iota constant s).length = s.length := by
  cases s with
  | nil => rfl
  | cons first rest => rfl

theorem length_round (s : State) (constant : UInt64) : (round s constant).length = 25 := by
  simp [round, chi]

/-- Steps that each give 25 lanes give 25 lanes, and so does making none of them. -/
theorem length_foldl {α : Type} {step : State → α → State} (hstep : ∀ s a, (step s a).length = 25)
    (as : List α) {s : State} (hs : s.length = 25) : (as.foldl step s).length = 25 := by
  induction as generalizing s with
  | nil => exact hs
  | cons a as ih => exact ih (hstep s a)

theorem length_permute {s : State} (hs : s.length = 25) : (permute s).length = 25 :=
  length_foldl length_round constants hs

theorem length_absorb (s : State) (block : Bytes) : (absorb s block).length = 25 :=
  length_permute (length_build _)

theorem length_flatMap_writeLane (s : State) : (s.flatMap writeLane).length = 8 * s.length := by
  have hlane (v : UInt64) : (writeLane v).length = 8 := by simp [writeLane]
  simp [List.length_flatMap, hlane, List.map_const', Nat.mul_comm]

/-- Every message has a hash of 32 bytes. -/
theorem length_hash (message : Bytes) : (hash message).length = 32 := by
  have hlanes := length_foldl length_absorb (blocks (pad message))
    (List.length_replicate : (List.replicate 25 (0 : UInt64)).length = 25)
  unfold hash
  dsimp only
  rw [length_flatMap_writeLane, List.length_take, hlanes]
  decide

end Keccak

@[simp] theorem Hex.length_flatMap_pair (bytes : Bytes) :
    (bytes.flatMap pair).length = 2 * bytes.length :=
  (digits_pairs bytes).length

namespace Address

open Hex (IsDigit Digits Spells)

/-! ## Reading -/

/-- A text is read as an address if it spells its bytes. -/
theorem parse_eq_ok_iff {text : List Char} {a : Address} :
    parse text = .ok a ↔ Spells text a.bytes := by
  constructor
  · intro h
    unfold parse at h
    cases hdecode : Hex.decodeExact 20 text with
    | error e => rw [hdecode] at h; cases h
    | ok bytes =>
      rw [hdecode, Except.map, Except.ok.injEq] at h
      obtain ⟨hspells, hlength⟩ := Hex.decodeExact_eq_ok_iff.mp hdecode
      rwa [← (ofBytes_eq_iff hlength).mp h]
  · intro h
    rw [parse, Hex.decodeExact_eq_ok_iff.mpr ⟨h, a.length_bytes⟩, Except.map,
      (ofBytes_eq_iff a.length_bytes).mpr rfl]

/-- A text spells an address exactly if it is forty digits, behind an optional marker. -/
theorem exists_spells_iff {text : List Char} : (∃ a : Address, Spells text a.bytes) ↔
    ∃ digits, Hex.Marks text digits ∧ digits.length = 40 ∧ ∀ c ∈ digits, Hex.IsAnyDigit c := by
  refine Iff.trans ?_ (@Hex.exists_spells_iff text 20)
  constructor
  · exact fun ⟨a, h⟩ => ⟨a.bytes, h, a.length_bytes⟩
  · rintro ⟨bytes, h, hlength⟩
    refine ⟨ofBytes bytes, ?_⟩
    rwa [← (ofBytes_eq_iff hlength).mp rfl]

/-! ## Writing -/

/-- The lower digits of an address spell it. -/
theorem spells_lower (a : Address) : Spells a.lower.toList a.bytes := by
  refine ⟨a.bytes.flatMap Hex.pair, .inr (.inl ?_), Hex.digits_pairs a.bytes⟩
  rw [lower, String.toList_append, digits, Hex.encode, String.toList_ofList, String.toList_ofList,
    List.cons_append, List.singleton_append]

/-- A digit stays the one it is in either case. -/
theorem isDigit_markCase {n : Nat} (hn : n < 16) (d : Char) :
    IsDigit (markCase (Text.digitChar n) d) n := by
  have hboth : ∀ n < 16, IsDigit (Text.digitChar n) n ∧ IsDigit (Text.digitChar n).toUpper n := by
    decide
  obtain ⟨hlower, hupper⟩ := hboth n hn
  unfold markCase
  split
  · split
    · exact hupper
    · exact hlower
  · exact hlower

/-- Whatever the hash is, the digits still spell their bytes if it has one digit for each. -/
theorem digits_markCase {bytes : Bytes} {hash : List Char} (h : 2 * bytes.length ≤ hash.length) :
    Digits (List.zipWith markCase (bytes.flatMap Hex.pair) hash) bytes := by
  induction bytes generalizing hash with
  | nil => exact .nil
  | cons b bytes ih =>
    rw [List.length_cons] at h
    match hash, h with
    | d :: d' :: hash, h =>
      have hb := b.toNat_lt
      have hhigh := isDigit_markCase (show b.toNat / 16 < 16 by omega) d
      have hlow := isDigit_markCase (show b.toNat % 16 < 16 by omega) d'
      have hrest : 2 * bytes.length ≤ hash.length := by
        rw [List.length_cons, List.length_cons] at h
        omega
      -- Each byte takes two digits of the hash, so the rest of both stays long enough.
      have hdigits := Digits.cons hhigh hlow (ih hrest)
      rw [Nat.div_add_mod, UInt8.ofNat_toNat] at hdigits
      exact hdigits

/-- The digits of an address are raised as those of its hash say. -/
theorem toList_checksum (a : Address) : a.checksum.toList =
    '0' :: 'x' :: List.zipWith markCase (a.bytes.flatMap Hex.pair)
      ((Keccak.hash (Bytes.ofText (a.bytes.flatMap Hex.pair))).flatMap Hex.pair) := by
  unfold checksum
  dsimp only
  rw [String.toList_append, String.toList_ofList, String.toList_ofList, List.cons_append,
    List.singleton_append]

/-- There is a digit of the hash for every digit of an address. -/
theorem length_letters_le (a : Address) : (a.bytes.flatMap Hex.pair).length ≤
    ((Keccak.hash (Bytes.ofText (a.bytes.flatMap Hex.pair))).flatMap Hex.pair).length := by
  rw [Hex.length_flatMap_pair, Hex.length_flatMap_pair, Keccak.length_hash, length_bytes]
  decide

/-- An address in mixed case spells the bytes of the address. -/
theorem spells_checksum (a : Address) : Spells a.checksum.toList a.bytes := by
  have hlength := a.length_letters_le
  rw [Hex.length_flatMap_pair] at hlength
  exact ⟨_, .inr (.inl a.toList_checksum), digits_markCase hlength⟩

/-- **An address is read back from its mixed case.** -/
theorem parse_checksum (a : Address) : parse a.checksum.toList = .ok a :=
  parse_eq_ok_iff.mpr a.spells_checksum

/-- Different addresses are written differently, because their digits can be read again. -/
theorem checksum_injective {a b : Address} (h : a.checksum = b.checksum) : a = b := by
  have hparse := a.parse_checksum
  rw [h, b.parse_checksum, Except.ok.injEq] at hparse
  exact hparse.symm

/-- Every address is written in 42 characters. -/
theorem length_checksum (a : Address) : a.checksum.toList.length = 42 := by
  rw [toList_checksum, List.length_cons, List.length_cons, List.length_zipWith,
    Nat.min_eq_left a.length_letters_le, Hex.length_flatMap_pair, length_bytes]

/-! ## Addresses without letters -/

/-- What has no other case is left alone. -/
theorem markCase_eq_self {c : Char} (h : c.toUpper = c) (d : Char) : markCase c d = c := by
  unfold markCase
  split
  · split
    · exact h
    · rfl
  · rfl

/-- So is a text of such characters. -/
theorem zipWith_markCase_eq_self {letters hash : List Char} (h : ∀ c ∈ letters, c.toUpper = c)
    (hle : letters.length ≤ hash.length) : List.zipWith markCase letters hash = letters := by
  induction letters generalizing hash with
  | nil => exact List.zipWith_nil_left
  | cons c letters ih =>
    match hash, hle with
    | d :: hash, hle =>
      rw [List.forall_mem_cons] at h
      rw [List.zipWith_cons_cons, markCase_eq_self h.1, ih h.2 (Nat.le_of_succ_le_succ hle)]

/-- The hash has no say about an address without letters. -/
theorem checksum_eq_lower {a : Address}
    (h : a.digits.toList.all (fun c => c.toUpper = c) = true) : a.checksum = a.lower := by
  have hdigits : a.digits.toList = a.bytes.flatMap Hex.pair := String.toList_ofList
  have hupper : ∀ c ∈ a.bytes.flatMap Hex.pair, c.toUpper = c := by
    intro c hc
    rw [List.all_eq_true, hdigits] at h
    exact of_decide_eq_true (h c hc)
  rw [← String.toList_inj, toList_checksum, zipWith_markCase_eq_self hupper a.length_letters_le,
    lower, String.toList_append, hdigits, String.toList_ofList, List.cons_append,
    List.singleton_append]

end Address

end Rollup
