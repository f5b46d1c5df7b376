/-
Hexadecimal text is read as the bytes that it spells, and any other text is refused.

What a text spells is said of its characters (`Hex.Spells`): behind an optional marker there are
two digits for every byte, each in either case. The reader works on the UTF-8 bytes of the text,
where a digit is a single byte, and where no part of a longer character looks like one
(`Bytes.ofText_eq_cons`). So it is right about texts of all characters (`Hex.decode_eq_ok_iff`).
-/
import Mathlib.Data.List.Induction
import Rollup.Bytes.Hex

set_option autoImplicit false

namespace Rollup

/-! ## ASCII characters as bytes -/

namespace Bytes

theorem utf8_of_lt {c : Char} (h : c.toNat < 128) :
    String.utf8EncodeChar c = [UInt8.ofNat c.toNat] := by
  rw [String.utf8EncodeChar]
  exact if_pos (Nat.le_of_lt_succ h)

/-- Any other character begins with a byte that is no ASCII character. -/
theorem utf8_of_le {c : Char} (h : 128 ≤ c.toNat) :
    ∃ b rest, String.utf8EncodeChar c = b :: rest ∧ 128 ≤ b.toNat := by
  have hval : ¬ c.val.toNat ≤ 127 := Nat.not_le.mpr h
  rw [String.utf8EncodeChar, if_neg hval]
  -- Beyond one byte the first one is marked, however many follow.
  split
  · refine ⟨_, _, rfl, ?_⟩
    rw [UInt8.toNat_ofNat']
    omega
  · split
    · refine ⟨_, _, rfl, ?_⟩
      rw [UInt8.toNat_ofNat']
      omega
    · refine ⟨_, _, rfl, ?_⟩
      rw [UInt8.toNat_ofNat']
      omega

theorem ofText_cons (c : Char) (text : List Char) :
    ofText (c :: text) = String.utf8EncodeChar c ++ ofText text := List.flatMap_cons

/-- An ASCII character in front is a byte in front. -/
theorem ofText_cons_of_lt {c : Char} (h : c.toNat < 128) (text : List Char) :
    ofText (c :: text) = UInt8.ofNat c.toNat :: ofText text := by
  rw [ofText_cons, utf8_of_lt h]
  rfl

/-- Only the empty text has no bytes. -/
theorem ofText_eq_nil {text : List Char} (h : ofText text = []) : text = [] := by
  cases text with
  | nil => rfl
  | cons c text =>
    have hsize := c.utf8Size_pos
    rw [← String.length_utf8EncodeChar, (List.append_eq_nil_iff.mp h).1] at hsize
    cases hsize

/-- **An ASCII byte in front of a text is a character by itself.** -/
theorem ofText_eq_cons {text : List Char} {b : UInt8} {rest : Bytes} (h : ofText text = b :: rest)
    (hb : b.toNat < 128) : ∃ tail, text = Char.ofNat b.toNat :: tail ∧ ofText tail = rest := by
  cases text with
  | nil => cases h
  | cons c tail =>
    rw [ofText_cons] at h
    -- A longer character would begin with a byte from 128 on.
    have hc : c.toNat < 128 := by
      by_contra hge
      obtain ⟨first, others, hutf8, hfirst⟩ := utf8_of_le (Nat.le_of_not_lt hge)
      rw [hutf8, List.cons_append, List.cons.injEq] at h
      rw [h.1] at hfirst
      omega
    rw [utf8_of_lt hc, List.singleton_append, List.cons.injEq] at h
    obtain ⟨rfl, hrest⟩ := h
    have hcode : (UInt8.ofNat c.toNat).toNat = c.toNat := by
      rw [UInt8.toNat_ofNat']
      omega
    exact ⟨tail, by rw [hcode, Char.ofNat_toNat], hrest⟩

end Bytes

namespace Hex

open Bytes (ofText)

/-! ## What a text spells -/

def lowerDigits : List Char := "0123456789abcdef".toList

def upperDigits : List Char := "0123456789ABCDEF".toList

/-- The character is the digit of `n`, in either case. -/
def IsDigit (c : Char) (n : Nat) : Prop := lowerDigits[n]? = some c ∨ upperDigits[n]? = some c

instance (c : Char) (n : Nat) : Decidable (IsDigit c n) := inferInstanceAs (Decidable (_ ∨ _))

/-- Two digits for every byte, the high one first. -/
inductive Digits : List Char → Bytes → Prop where
  | nil : Digits [] []
  | cons {high low : Char} {h l : Nat} {digits : List Char} {bytes : Bytes} :
    IsDigit high h → IsDigit low l → Digits digits bytes →
      Digits (high :: low :: digits) (UInt8.ofNat (16 * h + l) :: bytes)

/-- The text is the digits, with or without a marker in front. -/
def Marks (text digits : List Char) : Prop :=
  text = digits ∨ text = '0' :: 'x' :: digits ∨ text = '0' :: 'X' :: digits

/-- The text is the digits of the bytes, with or without a marker in front. -/
def Spells (text : List Char) (bytes : Bytes) : Prop :=
  ∃ digits, Marks text digits ∧ Digits digits bytes

theorem IsDigit.lt {c : Char} {n : Nat} (h : IsDigit c n) : n < 16 := by
  obtain h | h := h <;> exact (List.getElem?_eq_some_iff.mp h).1

/-- The character is a digit, in either case. -/
def IsAnyDigit (c : Char) : Prop := c ∈ lowerDigits ++ upperDigits

theorem isAnyDigit_iff {c : Char} : IsAnyDigit c ↔ ∃ n, IsDigit c n := by
  rw [IsAnyDigit, List.mem_append, List.mem_iff_getElem?, List.mem_iff_getElem?, ← exists_or]
  rfl

theorem IsDigit.isAnyDigit {c : Char} {n : Nat} (h : IsDigit c n) : IsAnyDigit c :=
  isAnyDigit_iff.mpr ⟨n, h⟩

/-- What a check of all digits finds is true of each. -/
theorem IsAnyDigit.of_all {p : Char → Bool} (hall : (lowerDigits ++ upperDigits).all p = true)
    {c : Char} (h : IsAnyDigit c) : p c = true :=
  List.all_eq_true.mp hall c h

/-- Digits are ASCII. -/
theorem IsDigit.toNat_lt {c : Char} {n : Nat} (h : IsDigit c n) : c.toNat < 128 := by
  have hall : (lowerDigits ++ upperDigits).all (·.toNat < 128) = true := by decide
  exact of_decide_eq_true (h.isAnyDigit.of_all hall)

/-- There are two digits for every byte. -/
theorem Digits.length {digits : List Char} {bytes : Bytes} (h : Digits digits bytes) :
    digits.length = 2 * bytes.length := by
  induction h with
  | nil => rfl
  | cons _ _ _ ih =>
    rw [List.length_cons, List.length_cons, List.length_cons, ih]
    omega

/-- Digits spell bytes if their number is even. -/
theorem exists_digits_iff {digits : List Char} :
    (∃ bytes, Digits digits bytes) ↔ digits.length % 2 = 0 ∧ ∀ c ∈ digits, IsAnyDigit c := by
  constructor
  · rintro ⟨bytes, h⟩
    refine ⟨by rw [h.length]; omega, ?_⟩
    induction h with
    | nil => exact nofun
    | cons hhigh hlow _ ih =>
      rintro c (_ | ⟨_, _ | ⟨_, hc⟩⟩)
      · exact hhigh.isAnyDigit
      · exact hlow.isAnyDigit
      · exact ih c hc
  · rintro ⟨heven, hall⟩
    -- Two digits at a time make a byte.
    induction digits using List.twoStepInduction with
    | nil => exact ⟨[], .nil⟩
    | singleton c => cases heven
    | cons_cons high low digits ih _ =>
      rw [List.forall_mem_cons, List.forall_mem_cons] at hall
      obtain ⟨hhigh, hlow, hall⟩ := hall
      rw [List.length_cons, List.length_cons] at heven
      obtain ⟨bytes, hbytes⟩ := ih (by omega) hall
      obtain ⟨h, hhigh⟩ := isAnyDigit_iff.mp hhigh
      obtain ⟨l, hlow⟩ := isAnyDigit_iff.mp hlow
      exact ⟨_, .cons hhigh hlow hbytes⟩

/-- A text spells bytes of this number exactly if it is twice as many digits, behind an optional
marker. -/
theorem exists_spells_iff {text : List Char} {length : Nat} :
    (∃ bytes, Spells text bytes ∧ bytes.length = length) ↔
      ∃ digits, Marks text digits ∧ digits.length = 2 * length ∧ ∀ c ∈ digits, IsAnyDigit c := by
  constructor
  · rintro ⟨bytes, ⟨digits, hmarks, hdigits⟩, rfl⟩
    exact ⟨digits, hmarks, hdigits.length, (exists_digits_iff.mp ⟨bytes, hdigits⟩).2⟩
  · rintro ⟨digits, hmarks, hlength, hall⟩
    obtain ⟨bytes, hdigits⟩ := exists_digits_iff.mpr ⟨by omega, hall⟩
    have hbytes := hdigits.length
    exact ⟨bytes, ⟨digits, hmarks, hdigits⟩, by omega⟩

/-! ## Digits among bytes -/

/-- The digit of an ASCII character is that of its byte. -/
theorem isDigit_ofNat : ∀ k < 128, ∀ n < 16,
    (IsDigit (Char.ofNat k) n ↔ digit? (UInt8.ofNat k) = some (UInt8.ofNat n)) := by
  decide +kernel

/-- Bytes that are read as digits are ASCII, and what they are read as is less than 16. -/
theorem digit?_lt : ∀ k < 256, ∀ d ∈ digit? (UInt8.ofNat k), k < 128 ∧ d.toNat < 16 := by
  decide +kernel

/-- A digit of a text is read as its number. -/
theorem ofText_digit {c : Char} {n : Nat} (h : IsDigit c n) (text : List Char) :
    ∃ b, ofText (c :: text) = b :: ofText text ∧ digit? b = some (UInt8.ofNat n) := by
  refine ⟨UInt8.ofNat c.toNat, Bytes.ofText_cons_of_lt h.toNat_lt text, ?_⟩
  apply (isDigit_ofNat c.toNat h.toNat_lt n h.lt).mp
  rwa [Char.ofNat_toNat]

/-- A digit in front of the bytes of a text is a digit in front of the text. -/
theorem isDigit_of_ofText {text : List Char} {b d : UInt8} {rest : Bytes}
    (h : ofText text = b :: rest) (hb : digit? b = some d) :
    ∃ c tail, text = c :: tail ∧ ofText tail = rest ∧ IsDigit c d.toNat := by
  obtain ⟨hlt, hd⟩ := digit?_lt b.toNat b.toNat_lt d (by rw [UInt8.ofNat_toNat]; exact hb)
  obtain ⟨tail, rfl, htail⟩ := Bytes.ofText_eq_cons h hlt
  refine ⟨_, tail, rfl, htail, (isDigit_ofNat _ hlt _ hd).mpr ?_⟩
  rw [UInt8.ofNat_toNat, UInt8.ofNat_toNat, hb]

/-! ## Reading digits -/

/-- Digits are read as the bytes that they spell, behind what was read before. -/
theorem pairs_of_digits {digits : List Char} {bytes : Bytes} (h : Digits digits bytes)
    (position : Nat) (before : Bytes) :
    pairs position before (ofText digits) = .ok (before.reverse ++ bytes) := by
  induction h generalizing position before with
  | nil => rw [List.append_nil]; rfl
  | @cons high low h l digits bytes hhigh hlow _ ih =>
    obtain ⟨b, hb, hbdigit⟩ := ofText_digit hhigh (low :: digits)
    obtain ⟨b', hb', hbdigit'⟩ := ofText_digit hlow digits
    -- Two digits make a byte, the first of them the greater part.
    have hvalue : 16 * UInt8.ofNat h + UInt8.ofNat l = UInt8.ofNat (16 * h + l) := by
      rw [UInt8.ofNat_add, UInt8.ofNat_mul]
      rfl
    rw [hb, hb', pairs, hbdigit, hbdigit']
    dsimp only
    rw [ih, hvalue, List.reverse_cons, List.append_assoc]
    rfl

/-- Bytes that are read are the digits of what they are read as. -/
theorem digits_of_pairs {position : Nat} {before rest out : Bytes}
    (hread : pairs position before rest = .ok out) (heven : rest.length % 2 = 0) {text : List Char}
    (htext : ofText text = rest) :
    ∃ bytes, Digits text bytes ∧ out = before.reverse ++ bytes := by
  fun_induction pairs position before rest generalizing text with
  | case1 position before high low rest h l hlow hhigh ih =>
    -- Both digits are characters of the text, and the text goes on behind them.
    obtain ⟨c, tail, rfl, htail, hc⟩ := isDigit_of_ofText htext hhigh
    obtain ⟨c', tail', rfl, htail', hc'⟩ := isDigit_of_ofText htail hlow
    rw [List.length_cons, List.length_cons] at heven
    obtain ⟨bytes, hdigits, hout⟩ := ih hread (by omega) htail'
    have hvalue : UInt8.ofNat (16 * h.toNat + l.toNat) = 16 * h + l := by
      rw [UInt8.ofNat_add, UInt8.ofNat_mul, UInt8.ofNat_toNat, UInt8.ofNat_toNat]
      rfl
    refine ⟨_, .cons hc hc' hdigits, ?_⟩
    rw [hout, hvalue, List.reverse_cons, List.append_assoc]
    rfl
  | case2 => cases hread
  | case3 => cases hread
  | case4 rest position before hshort =>
    -- Fewer than two bytes are left, and not one.
    have hnil : rest = [] := by
      match rest, hshort with
      | [], _ => rfl
      | [b], _ => cases heven
      | high :: low :: rest, hshort => exact absurd rfl (hshort high low rest)
    rw [hnil] at htext
    rw [Bytes.ofText_eq_nil htext]
    cases hread
    exact ⟨[], .nil, (List.append_nil _).symm⟩

/-! ## The marker -/

/-- The marker is two bytes, so that it counts nothing towards an odd length. -/
theorem Marks.length {text digits : List Char} (h : Marks text digits) :
    (ofText text).length % 2 = (ofText digits).length % 2 := by
  obtain rfl | rfl | rfl := h
  · rfl
  · exact Nat.add_mod_right _ 2
  · exact Nat.add_mod_right _ 2

/-- What is left when the marker is dropped is the text behind it. -/
theorem exists_marks (text : List Char) :
    ∃ digits, Marks text digits ∧ dropMarker (ofText text) = ofText digits := by
  generalize hbytes : ofText text = bytes
  fun_cases dropMarker bytes with
  | case1 rest =>
    obtain ⟨tail, rfl, htail⟩ := Bytes.ofText_eq_cons hbytes (by decide)
    obtain ⟨digits, rfl, hdigits⟩ := Bytes.ofText_eq_cons htail (by decide)
    exact ⟨digits, .inr (.inl rfl), hdigits.symm⟩
  | case2 rest =>
    obtain ⟨tail, rfl, htail⟩ := Bytes.ofText_eq_cons hbytes (by decide)
    obtain ⟨digits, rfl, hdigits⟩ := Bytes.ofText_eq_cons htail (by decide)
    exact ⟨digits, .inr (.inr rfl), hdigits.symm⟩
  | case3 => exact ⟨text, .inl rfl, hbytes.symm⟩

/-- No digits begin with a marker. -/
theorem not_marker {high low : Char} {digits : List Char} {bytes : Bytes}
    (h : Digits (high :: low :: digits) bytes) : low ≠ 'x' ∧ low ≠ 'X' := by
  have hall : (lowerDigits ++ upperDigits).all (fun c => c ≠ 'x' ∧ c ≠ 'X') = true := by decide
  cases h with
  | cons _ hlow _ => exact of_decide_eq_true (hlow.isAnyDigit.of_all hall)

/-- What is left is the only text that can be the digits. -/
theorem dropMarker_of_marks {text digits : List Char} {bytes : Bytes} (hmarks : Marks text digits)
    (h : Digits digits bytes) : dropMarker (ofText text) = ofText digits := by
  obtain rfl | rfl | rfl := hmarks
  · obtain ⟨rest, rfl | rfl | rfl, hrest⟩ := exists_marks text
    · exact hrest
    · exact absurd rfl (not_marker h).1
    · exact absurd rfl (not_marker h).2
  · rfl
  · rfl

/-! ## Reading text -/

/-- Digits are as many bytes as characters. -/
theorem length_ofText_of_digits {digits : List Char} {bytes : Bytes} (h : Digits digits bytes) :
    (ofText digits).length = 2 * bytes.length := by
  induction h with
  | nil => rfl
  | @cons high low _ _ digits bytes hhigh hlow _ ih =>
    rw [Bytes.ofText_cons_of_lt hhigh.toNat_lt, Bytes.ofText_cons_of_lt hlow.toNat_lt]
    rw [List.length_cons, List.length_cons, List.length_cons, ih]
    omega

/-- Digits for bytes are not odd in number, with a marker or without. -/
theorem not_odd_of_marks {text digits : List Char} {bytes : Bytes} (hmarks : Marks text digits)
    (h : Digits digits bytes) : ¬ (ofText text).length % 2 = 1 := by
  rw [hmarks.length, length_ofText_of_digits h]
  omega

/-- A text that spells bytes is read as these. -/
theorem decode_of_spells {text : List Char} {bytes : Bytes} (h : Spells text bytes) :
    decode text = .ok bytes := by
  obtain ⟨digits, hmarks, hdigits⟩ := h
  rw [decode, if_neg (not_odd_of_marks hmarks hdigits), dropMarker_of_marks hmarks hdigits,
    pairs_of_digits hdigits]
  rfl

/-- What a text is read as, it spells. -/
theorem spells_of_decode {text : List Char} {bytes : Bytes} (h : decode text = .ok bytes) :
    Spells text bytes := by
  unfold decode at h
  dsimp only at h
  split at h
  next => cases h
  next heven =>
    obtain ⟨digits, hmarks, hdrop⟩ := exists_marks text
    rw [hmarks.length] at heven
    rw [hdrop] at h
    obtain ⟨bytes', hdigits, hbytes⟩ := digits_of_pairs h (by omega) rfl
    rw [List.reverse_nil, List.nil_append] at hbytes
    rw [hbytes]
    exact ⟨digits, hmarks, hdigits⟩

/-- **A text is read as the bytes that it spells**, and refused if it spells none. -/
theorem decode_eq_ok_iff {text : List Char} {bytes : Bytes} :
    decode text = .ok bytes ↔ Spells text bytes :=
  ⟨spells_of_decode, decode_of_spells⟩

/-- The reader that asks for a length is the same, but for texts of other lengths. -/
theorem decodeExact_eq_ok_iff {text : List Char} {length : Nat} {bytes : Bytes} :
    decodeExact length text = .ok bytes ↔ Spells text bytes ∧ bytes.length = length := by
  constructor
  · intro h
    unfold decodeExact at h
    dsimp only at h
    split at h
    next => cases h
    next heven =>
      split at h
      next => cases h
      next hlength =>
        -- What is left to read is what the other reader reads.
        have hspells : Spells text bytes := by
          apply spells_of_decode
          rw [decode, if_neg heven, h]
        obtain ⟨digits, hmarks, hdigits⟩ := hspells
        rw [dropMarker_of_marks hmarks hdigits, length_ofText_of_digits hdigits] at hlength
        exact ⟨⟨digits, hmarks, hdigits⟩, by omega⟩
  · rintro ⟨⟨digits, hmarks, hdigits⟩, rfl⟩
    have hlength : ¬ (ofText digits).length ≠ 2 * bytes.length :=
      not_not.mpr (length_ofText_of_digits hdigits)
    rw [decodeExact, if_neg (not_odd_of_marks hmarks hdigits), dropMarker_of_marks hmarks hdigits,
      if_neg hlength, pairs_of_digits hdigits]
    rfl

/-! ## Writing text -/

/-- Numbers are written with the lower digits. -/
theorem isDigit_digitChar : ∀ n < 16, IsDigit (Text.digitChar n) n := by decide

/-- Bytes are written as digits that spell them. -/
theorem digits_pairs (bytes : Bytes) : Digits (bytes.flatMap pair) bytes := by
  induction bytes with
  | nil => exact .nil
  | cons b bytes ih =>
    have hb := b.toNat_lt
    have hhigh := isDigit_digitChar (b.toNat / 16) (by omega)
    have hlow := isDigit_digitChar (b.toNat % 16) (by omega)
    have hdigits := Digits.cons hhigh hlow ih
    rw [Nat.div_add_mod, UInt8.ofNat_toNat] at hdigits
    exact hdigits

end Hex

end Rollup
