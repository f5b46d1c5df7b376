/-
How the parameters of the fee are read.

A field is a numeral between blanks. There are three answers that its text can get, by what is left
without the blanks: a minus in front makes it negative, a numeral of a word is that word, and
anything else is refused and given back (`Answers`). The reader gives these answers to every text
that has a digit, and to no other one: what is blank, or nothing but a marker, it takes for zero
(`readField_answers_iff`).

Whatever the fields are built from, the first one that is bad decides (`build_find?`). So signed
numbers and their decimal texts come to the same parameters, or to the same error.
-/
import Rollup.Fee.Parameters
import Rollup.Proofs.Quantity
import Rollup.Proofs.Text.Blank
import Rollup.Proofs.Word

set_option autoImplicit false

namespace Rollup.Fee

theorem Field.mem_all (f : Field) : f ∈ Field.all := by
  cases f <;> decide

namespace Parameters

open Quantity (Spells IsBare Renders)
open Text (Pads trim)

variable {field : Field} {input : String} {text : List Char} {w : Word}

/-! ## One field -/

/-- The answer that a field deserves, by its text without the blanks around it. -/
structure Answers (field : Field) (text : List Char) (answer : Except ParameterError Word) :
    Prop where
  negative : answer = .error (.negative field) ↔ text.head? = some '-'
  number : ∀ w : Word, answer = .ok w ↔ Spells text w.toNat
  invalid : answer = .error (.invalid field (String.ofList text)) ↔
    text.head? ≠ some '-' ∧ ∀ w : Word, ¬ Spells text w.toNat

/-- No minus stands in a numeral, nor in front of one. -/
theorem head?_ne_minus (h : ∀ c ∈ text, c ∈ Quantity.alphabet) : text.head? ≠ some '-' := by
  intro hminus
  have hmem := h '-' (List.mem_of_mem_head? hminus)
  revert hmem
  decide

/-- No digit is blank. -/
theorem not_isBlank_of_mem_alphabet : ∀ c ∈ Quantity.alphabet, Text.isBlank c = false := by
  intro c hc
  have hall : Quantity.alphabet.all (fun c => !Text.isBlank c) = true := by decide
  simpa using List.all_eq_true.mp hall c hc

/-- What begins with a minus is negative, whatever follows. -/
theorem readField_of_minus (h : (trim input.toList).head? = some '-') :
    readField field input = .error (.negative field) := by
  rw [readField, if_pos h]

/-- What reads as a number is this number. -/
theorem readField_of_read {n : Nat} (hhead : (trim input.toList).head? ≠ some '-')
    (h : Quantity.read 256 (trim input.toList) = some n) :
    readField field input = .ok (BitVec.ofNat 256 n) := by
  rw [readField, if_neg hhead, h]

/-- What does not is invalid, and is shown without the blanks around it. -/
theorem readField_of_read_none (hhead : (trim input.toList).head? ≠ some '-')
    (h : Quantity.read 256 (trim input.toList) = none) :
    readField field input = .error (.invalid field (String.ofList (trim input.toList))) := by
  rw [readField, if_neg hhead, h]

/-- A numeral of a word is read as that word. -/
theorem readField_of_spells (h : Spells (trim input.toList) w.toNat) :
    readField field input = .ok w := by
  have hread : Quantity.read 256 (trim input.toList) = some w.toNat :=
    Quantity.read_eq_some_iff.mpr ⟨w.isLt, .inl h⟩
  rw [readField_of_read (head?_ne_minus h.mem_alphabet) hread, BitVec.ofNat_toNat,
    BitVec.setWidth_eq]

/-- A text without a digit is read as zero. -/
theorem readField_of_isBare (h : IsBare (trim input.toList)) : readField field input = .ok 0 := by
  have hread : Quantity.read 256 (trim input.toList) = some 0 :=
    Quantity.read_eq_some_iff.mpr ⟨by decide, .inr ⟨h, rfl⟩⟩
  exact readField_of_read (head?_ne_minus h.mem_alphabet) hread

/-- **The answers to the text of a field** are the right ones exactly if what is left without the
blanks is not bare of digits. Otherwise the field is read as zero. -/
theorem readField_answers_iff (field : Field) (input : String) :
    (Answers field (trim input.toList) (readField field input) ↔
      ¬ IsBare (trim input.toList)) ∧
    (IsBare (trim input.toList) → readField field input = .ok 0) := by
  refine ⟨⟨fun h hbare => ?_, fun hbare => ?_⟩, readField_of_isBare⟩
  · -- Zero would have to be spelled.
    exact ((h.number 0).mp (readField_of_isBare hbare)).not_isBare hbare
  · by_cases hhead : (trim input.toList).head? = some '-'
    · have hanswer : readField field input = .error (.negative field) := readField_of_minus hhead
      have hnone (w : Word) : ¬ Spells (trim input.toList) w.toNat :=
        fun h => head?_ne_minus h.mem_alphabet hhead
      rw [hanswer]
      exact ⟨iff_of_true rfl hhead, fun w => iff_of_false nofun (hnone w),
        iff_of_false nofun fun h => h.1 hhead⟩
    · cases hread : Quantity.read 256 (trim input.toList) with
      | none =>
        have hnone (w : Word) : ¬ Spells (trim input.toList) w.toNat := by
          intro h
          have hsome := Quantity.read_eq_some_iff.mpr ⟨w.isLt, .inl h⟩
          rw [hread] at hsome
          exact nomatch hsome
        rw [readField_of_read_none hhead hread]
        exact ⟨iff_of_false nofun hhead, fun w => iff_of_false nofun (hnone w),
          iff_of_true rfl ⟨hhead, hnone⟩⟩
      | some n =>
        obtain ⟨hlt, hspells⟩ := Quantity.read_eq_some_iff.mp hread
        replace hspells := hspells.resolve_right fun h => hbare h.1
        obtain ⟨w, rfl⟩ := Word.exists_toNat_eq_iff.mpr hlt
        rw [readField_of_spells hspells]
        refine ⟨iff_of_false nofun hhead, fun v => ⟨fun hv => ?_, fun hv => ?_⟩,
          iff_of_false nofun fun h => h.2 w hspells⟩
        · rwa [← Except.ok.inj hv]
        · -- A text spells one number only, since it is read as one.
          have hsame : readField field input = .ok v := readField_of_spells hv
          rwa [readField_of_spells hspells] at hsame

/-- A blank field and a lone marker are read as zero, which neither of them spells. -/
theorem not_answers_blank :
    readField .l1BaseFee " " = .ok 0 ∧ readField .l1BaseFee "0x" = .ok 0 ∧
    ¬ Answers .l1BaseFee (trim " ".toList) (readField .l1BaseFee " ") ∧
    ¬ Answers .l1BaseFee (trim "0x".toList) (readField .l1BaseFee "0x") := by
  have hblank : IsBare (trim " ".toList) := ⟨10, [], [], .decimal, rfl, nofun⟩
  have hmarker : IsBare (trim "0x".toList) := ⟨16, _, [], .hexadecimal (.inl rfl), rfl, nofun⟩
  refine ⟨readField_of_isBare hblank, readField_of_isBare hmarker, fun h => ?_, fun h => ?_⟩
  · exact ((h.number 0).mp (readField_of_isBare hblank)).not_isBare hblank
  · exact ((h.number 0).mp (readField_of_isBare hmarker)).not_isBare hmarker

/-! ## All fields -/

section Build

variable {ε : Type} {read : Field → Except ε Word}

/-- If all fields are read, then they are the parameters. -/
theorem build_of_forall {p : Parameters} (h : ∀ f, read f = .ok (p.get f)) :
    build read = .ok p := by
  unfold build
  rw [h .l1BaseFee, h .blobBaseFee, h .baseFeeScalar, h .blobBaseFeeScalar]
  rfl

/-- **The first bad field decides**, and without one there are parameters. -/
theorem build_find? (bad : Field → Bool) (e : Field → ε)
    (hgood : ∀ f, bad f = false → ∃ w, read f = .ok w)
    (hbad : ∀ f, bad f = true → read f = .error (e f)) :
    (∀ f, Field.all.find? bad = some f → build read = .error (e f)) ∧
    (Field.all.find? bad = none → ∃ p, build read = .ok p ∧ ∀ f, read f = .ok (p.get f)) := by
  have hgood' {f : Field} (hf : ¬ bad f = true) : ∃ w, read f = .ok w :=
    hgood f (Bool.eq_false_iff.mpr hf)
  constructor
  · intro f hf
    unfold build
    rw [Field.all] at hf
    -- One field after the other: it is the one that is bad, or it is read and the next one counts.
    by_cases h : bad .l1BaseFee = true
    · rw [List.find?_cons_of_pos h, Option.some.injEq] at hf
      rw [hbad _ h, hf]
      rfl
    obtain ⟨a, ha⟩ := hgood' h
    rw [List.find?_cons_of_neg h] at hf
    rw [ha]
    by_cases h : bad .blobBaseFee = true
    · rw [List.find?_cons_of_pos h, Option.some.injEq] at hf
      rw [hbad _ h, hf]
      rfl
    obtain ⟨b, hb⟩ := hgood' h
    rw [List.find?_cons_of_neg h] at hf
    rw [hb]
    by_cases h : bad .baseFeeScalar = true
    · rw [List.find?_cons_of_pos h, Option.some.injEq] at hf
      rw [hbad _ h, hf]
      rfl
    obtain ⟨c, hc⟩ := hgood' h
    rw [List.find?_cons_of_neg h] at hf
    rw [hc]
    obtain rfl : f = .blobBaseFeeScalar := List.mem_singleton.mp (List.mem_of_find?_eq_some hf)
    rw [hbad _ (List.find?_some hf)]
    rfl
  · intro hnone
    have hok (f : Field) : ∃ w, read f = .ok w := hgood' (List.find?_eq_none.mp hnone f f.mem_all)
    obtain ⟨a, ha⟩ := hok .l1BaseFee
    obtain ⟨b, hb⟩ := hok .blobBaseFee
    obtain ⟨c, hc⟩ := hok .baseFeeScalar
    obtain ⟨d, hd⟩ := hok .blobBaseFeeScalar
    have hget : ∀ f, read f = .ok (get ⟨a, b, c, d⟩ f) := by
      intro f
      cases f <;> assumption
    exact ⟨_, build_of_forall hget, hget⟩

end Build

/-! ## Numbers as texts -/

/-- A text that renders a word is read as that word, whatever blanks are around it. -/
theorem readField_of_renders (hpads : Pads input.toList text) (h : Renders w.toNat text) :
    readField field input = .ok w := by
  have hchars : ∀ c ∈ text, Text.isBlank c = false :=
    fun c hc => not_isBlank_of_mem_alphabet c (h.spells.mem_alphabet c hc)
  have htrim : trim input.toList = text :=
    Text.trim_of_pads hpads (Text.isTrimmed_of_forall hchars)
  apply readField_of_spells
  rw [htrim]
  exact h.spells

/-- A negative number is negative when it is written and read. -/
theorem readField_signedDecimal_of_neg {n : Int} (h : n < 0) :
    readField field (Text.signedDecimal n) = .error (.negative field) := by
  obtain ⟨k, rfl⟩ := Int.eq_negSucc_of_lt_zero h
  apply readField_of_minus
  have hchars : ∀ c ∈ '-' :: Text.numeral 10 (k + 1), Text.isBlank c = false := by
    refine List.forall_mem_cons.mpr ⟨rfl, fun c hc => ?_⟩
    exact not_isBlank_of_mem_alphabet c ((Renders.decimal 0).spells.mem_alphabet c hc)
  have htrim : trim ('-' :: Text.numeral 10 (k + 1)) = '-' :: Text.numeral 10 (k + 1) :=
    Text.trim_of_pads (Text.pads_self _) (Text.isTrimmed_of_forall hchars)
  have htext : (Text.signedDecimal (Int.negSucc k)).toList = '-' :: Text.numeral 10 (k + 1) := by
    rw [Text.signedDecimal, String.toList_append]
    exact congrArg ('-' :: ·) String.toList_ofList
  rw [htext, htrim]
  rfl

/-- **A signed number and its text are one field**, or fail as one. -/
theorem ofSigned_eq_readField {n : Int} (h : n < 2 ^ 256) :
    ofSigned field n = readField field (Text.signedDecimal n) := by
  cases n with
  | ofNat n =>
    have hlt : n < 2 ^ 256 := by
      rw [Int.ofNat_eq_natCast] at h
      omega
    obtain ⟨w, rfl⟩ := Word.exists_toNat_eq_iff.mpr hlt
    have htext : (Text.signedDecimal (Int.ofNat w.toNat)).toList = Text.numeral 10 w.toNat :=
      String.toList_ofList
    -- A numeral is a decimal without zeros in front, and has no blanks around it.
    have hpads : Pads (Text.signedDecimal (Int.ofNat w.toNat)).toList
        (List.replicate 0 '0' ++ Text.numeral 10 w.toNat) := by
      rw [htext]
      exact Text.pads_self _
    rw [readField_of_renders hpads (.decimal 0), ofSigned, BitVec.ofNat_toNat, BitVec.setWidth_eq]
  | negSucc n =>
    rw [readField_signedDecimal_of_neg (Int.negSucc_lt_zero n)]
    rfl

/-- Numbers that are words are taken as they would be read. -/
theorem fromSigned_eq_read {input : Field → Int} (h : ∀ f, input f < 2 ^ 256) :
    fromSigned input = read fun f => Text.signedDecimal (input f) := by
  have hfields : (fun f => ofSigned f (input f)) =
      fun f => readField f (Text.signedDecimal (input f)) :=
    funext fun f => ofSigned_eq_readField (h f)
  rw [fromSigned, read, hfields]

/-- What signed numbers come to: the first negative one is reported, and without one the parameters
are these numbers. -/
theorem fromSigned_find? {input : Field → Int} (h : ∀ f, input f < 2 ^ 256) :
    (∀ f, Field.all.find? (fun f => decide (input f < 0)) = some f →
      fromSigned input = .error (.negative f)) ∧
    (Field.all.find? (fun f => decide (input f < 0)) = none →
      ∃ p, fromSigned input = .ok p ∧ ∀ f, ((p.get f).toNat : Int) = input f) := by
  have hword (f : Field) (hf : 0 ≤ input f) :
      ∃ w : Word, ofSigned f (input f) = .ok w ∧ (w.toNat : Int) = input f := by
    obtain ⟨n, hn⟩ := Int.eq_ofNat_of_zero_le hf
    have hlt := h f
    rw [hn] at hlt ⊢
    refine ⟨BitVec.ofNat 256 n, rfl, ?_⟩
    rw [BitVec.toNat_ofNat, Nat.mod_eq_of_lt (by omega)]
  have hnegative (f : Field) (hf : decide (input f < 0) = true) :
      ofSigned f (input f) = .error (.negative f) := by
    obtain ⟨k, hk⟩ := Int.eq_negSucc_of_lt_zero (of_decide_eq_true hf)
    rw [hk]
    rfl
  have hgood (f : Field) (hf : decide (input f < 0) = false) :
      ∃ w, ofSigned f (input f) = .ok w := by
    obtain ⟨w, hw, -⟩ := hword f (by simpa using hf)
    exact ⟨w, hw⟩
  -- The fields are gone through in one order, whatever is wrong with them.
  obtain ⟨hfirst, hnone⟩ :=
    build_find? (fun f => decide (input f < 0)) ParameterError.negative hgood hnegative
  refine ⟨hfirst, fun hall => ?_⟩
  obtain ⟨p, hp, hget⟩ := hnone hall
  refine ⟨p, hp, fun f => ?_⟩
  obtain ⟨w, hw, hvalue⟩ := hword f (by simpa using List.find?_eq_none.mp hall f f.mem_all)
  rw [hget f] at hw
  rw [Except.ok.inj hw, hvalue]

end Parameters

end Rollup.Fee
