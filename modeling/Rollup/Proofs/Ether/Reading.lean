/-
What texts are read as amounts of ether.

The reader looks at what stands in front of the first point and at the first 18 characters behind
it, and takes their digits for a number of wei (`read_eq_ok_iff`). This is not always the amount
that the text denotes. What stands behind these 18 characters is cut off whatever it is, an
underscore among them takes the place of a digit, and a negative amount is wrapped around. So a text
that is read is read as the amount it denotes, with 18 decimals at most, exactly if it is plain:
without underscores there and without a minus, or zero (`isExact_iff`).
-/
import Mathlib.Data.List.TakeWhile
import Mathlib.Data.Rat.Cast.Order
import Mathlib.Tactic.FieldSimp
import Rollup.Ether
import Rollup.Proofs.Quantity
import Rollup.Proofs.Word

set_option autoImplicit false

namespace Rollup

open Quantity (Digits)

/-! ## ASCII texts -/

namespace Bytes

/-- No character is without bytes. -/
theorem length_le_ofText (text : List Char) : text.length ≤ (ofText text).length := by
  induction text with
  | nil => exact Nat.le_refl 0
  | cons c text ih =>
    have hsize := c.utf8Size_pos
    rw [ofText_cons, List.length_append, List.length_cons, String.length_utf8EncodeChar]
    omega

/-- ASCII characters are one byte each. -/
theorem length_ofText {text : List Char} (h : ∀ c ∈ text, c.toNat < 128) :
    (ofText text).length = text.length := by
  induction text with
  | nil => rfl
  | cons c text ih =>
    obtain ⟨hc, htext⟩ := List.forall_mem_cons.mp h
    rw [ofText_cons_of_lt hc, List.length_cons, List.length_cons, ih htext]

end Bytes

/-- Digits are ASCII, and so are underscores. -/
theorem Quantity.Digits.ascii {radix : Nat} {text : List Char} {ds : List Nat}
    (h : Digits radix text ds) : ∀ c ∈ text, c.toNat < 128 := by
  intro c hc
  have hall : alphabet.all (fun c => c.toNat < 128) = true := by decide
  exact of_decide_eq_true (List.all_eq_true.mp hall c (h.mem_alphabet c hc))

namespace Ether

variable {text : List Char} {w : Word}

theorem utf8Size_of_ascii {c : Char} (h : c.toNat < 128) : c.utf8Size = 1 := by
  rw [← String.length_utf8EncodeChar, Bytes.utf8_of_lt h]
  rfl

/-- An ASCII character in front is taken for one of the bytes. -/
theorem takeBytes_of_ascii_cons {c : Char} (h : c.toNat < 128) (size : Nat) (text : List Char) :
    takeBytes (size + 1) (c :: text) = (takeBytes size text).map (c :: ·) := by
  have hsize := utf8Size_of_ascii h
  rw [takeBytes, hsize, if_pos (by omega), Nat.add_sub_cancel]
  exact nofun

/-- Among ASCII characters bytes are characters. -/
theorem takeBytes_of_ascii {size : Nat} (hsize : size ≤ text.length)
    (h : ∀ c ∈ text.take size, c.toNat < 128) : takeBytes size text = some (text.take size) := by
  -- A character of this kind is one byte, so that text and size get shorter together.
  induction text generalizing size with
  | nil =>
    rw [List.length_nil, Nat.le_zero] at hsize
    rw [hsize]
    rfl
  | cons c text ih =>
    rcases size with _ | size
    · rfl
    · rw [List.take_succ_cons, List.forall_mem_cons] at h
      rw [List.length_cons] at hsize
      have hrest := ih (by omega) h.2
      rw [takeBytes_of_ascii_cons h.1, hrest]
      rfl

/-- What is taken off a text is the beginning of it, if it is ASCII. -/
theorem eq_take_of_takeBytes {size : Nat} {kept : List Char} (h : takeBytes size text = some kept)
    (hascii : ∀ c ∈ kept, c.toNat < 128) : kept = text.take size := by
  induction text generalizing size kept with
  | nil =>
    rcases size with _ | size
    · exact (Option.some.inj h).symm
    · exact nomatch h
  | cons c text ih =>
    rcases size with _ | size
    · exact (Option.some.inj h).symm
    · -- What is taken begins with the first character, which is therefore ASCII.
      obtain ⟨rest, rfl⟩ : ∃ rest, kept = c :: rest := by
        rw [takeBytes] at h
        · split at h
          · obtain ⟨rest, -, hkept⟩ := Option.map_eq_some_iff.mp h
            exact ⟨rest, hkept.symm⟩
          · exact nomatch h
        · exact nofun
      obtain ⟨hc, hascii⟩ := List.forall_mem_cons.mp hascii
      rw [takeBytes_of_ascii_cons hc] at h
      obtain ⟨rest', hrest, hkept⟩ := Option.map_eq_some_iff.mp h
      rw [List.cons.injEq] at hkept
      rw [hkept.2] at hrest
      rw [ih hrest hascii, List.take_succ_cons]

/-! ## The parts of a text -/

/-- What stands in front of the first point. -/
def wholePart (text : List Char) : List Char := text.takeWhile (· ≠ '.')

/-- What stands behind the first point. -/
def behindPoint (text : List Char) : List Char := (text.dropWhile (· ≠ '.')).drop 1

/-- The decimals that count. -/
def kept (text : List Char) : List Char := (behindPoint text).take decimals

theorem length_kept_le (text : List Char) : (kept text).length ≤ decimals :=
  List.length_take_le _ _

/-- A text falls into its parts at the first point. -/
theorem parts_of_point {front : List Char} (h : ∀ c ∈ front, c ≠ '.') (back : List Char) :
    wholePart (front ++ '.' :: back) = front ∧ behindPoint (front ++ '.' :: back) = back := by
  have hfront : ∀ c ∈ front, decide (c ≠ '.') = true := fun c hc => decide_eq_true (h c hc)
  unfold wholePart behindPoint
  rw [List.takeWhile_append_of_pos hfront, List.dropWhile_append_of_pos hfront]
  exact ⟨List.append_nil front, rfl⟩

/-- Without a point everything stands in front of it. -/
theorem parts_of_no_point (h : ∀ c ∈ text, c ≠ '.') :
    wholePart text = text ∧ behindPoint text = [] := by
  have htext : ∀ c ∈ text, decide (c ≠ '.') = true := fun c hc => decide_eq_true (h c hc)
  unfold wholePart behindPoint
  rw [List.takeWhile_eq_self_iff.mpr htext, List.dropWhile_eq_nil_iff.mpr htext]
  exact ⟨rfl, rfl⟩

/-- Where a text is split, and what is cut off it. -/
theorem split_eq (text : List Char) : split text =
    if (Bytes.ofText (behindPoint text)).length ≤ decimals then
      .ok (wholePart text, behindPoint text)
    else match takeBytes decimals (behindPoint text) with
      | some kept => .ok (wholePart text, kept)
      | none => .error .cutCharacter := rfl

/-- If the decimals that count are ASCII, then the text is cut behind them. -/
theorem split_of_ascii (h : ∀ c ∈ kept text, c.toNat < 128) :
    split text = .ok (wholePart text, kept text) := by
  rw [split_eq]
  split
  next hshort =>
    have hlength := Nat.le_trans (Bytes.length_le_ofText _) hshort
    rw [kept, List.take_of_length_le hlength]
  next hlong =>
    -- Then there are more than 18 characters, since the first 18 are ASCII.
    have hlength : decimals ≤ (behindPoint text).length := by
      by_contra hlt
      rw [kept, List.take_of_length_le (by omega)] at h
      rw [Bytes.length_ofText h] at hlong
      omega
    rw [takeBytes_of_ascii hlength h]
    rfl

/-- What is kept of a text in the end are characters again, if these are ASCII. -/
theorem eq_of_split {whole fraction : List Char} (h : split text = .ok (whole, fraction))
    (hascii : ∀ c ∈ fraction, c.toNat < 128) : whole = wholePart text ∧ fraction = kept text := by
  rw [split_eq] at h
  split at h
  next hshort =>
    obtain ⟨rfl, rfl⟩ := Prod.mk.inj (Except.ok.inj h)
    have hlength := Nat.le_trans (Bytes.length_le_ofText _) hshort
    exact ⟨rfl, (List.take_of_length_le hlength).symm⟩
  next hlong =>
    split at h
    next hkept =>
      obtain ⟨rfl, rfl⟩ := Prod.mk.inj (Except.ok.inj h)
      exact ⟨rfl, eq_take_of_takeBytes hkept hascii⟩
    next => exact nomatch h

/-! ## Reading -/

/-- Digits are read as what they spell, scaled up, if this is a word. -/
theorem unsigned_eq_some_iff {digits : List Char} {scale : Nat} (hscale : 0 < scale) :
    unsigned digits scale = some w ↔
      ∃ ds, Digits 10 digits ds ∧ w.toNat = Text.ofDigits 10 ds * scale := by
  unfold unsigned
  rw [Option.bind_eq_bind, Option.bind_eq_some_iff]
  constructor
  · rintro ⟨n, hn, hw⟩
    obtain ⟨ds, hds, rfl, -⟩ :=
      (Quantity.readDigits_eq_some_iff (by decide) (by decide) (by decide)).mp hn
    exact ⟨ds, hds, Word.ofNat?_eq_some_iff.mp hw⟩
  · rintro ⟨ds, hds, hw⟩
    -- If the product is a word, then so is what is scaled up.
    have hlt : Text.ofDigits 10 ds < 2 ^ 256 := by
      have hle := Nat.le_mul_of_pos_right (Text.ofDigits 10 ds) hscale
      have hword := w.isLt
      omega
    refine ⟨_, (Quantity.readDigits_eq_some_iff (by decide) (by decide) (by decide)).mpr
      ⟨ds, hds, rfl, hlt⟩, Word.ofNat?_eq_some_iff.mpr hw⟩

/-- Behind a minus the digits are negated, if what they spell is not beyond the least integer. -/
theorem negated_eq_some_iff {digits : List Char} {scale : Nat} (hscale : 0 < scale) :
    negated digits scale = some w ↔ ∃ ds, Digits 10 digits ds ∧
      Text.ofDigits 10 ds * scale ≤ 2 ^ 255 ∧
        BitVec.ofInt 256 (-(Text.ofDigits 10 ds * scale : Nat)) = w := by
  unfold negated
  rw [Option.bind_eq_bind, Option.bind_eq_some_iff]
  constructor
  · rintro ⟨n, hn, hw⟩
    obtain ⟨ds, hds, rfl, -⟩ :=
      (Quantity.readDigits_eq_some_iff (by decide) (by decide) (by decide)).mp hn
    split at hw
    next hle => exact ⟨ds, hds, hle, Option.some.inj hw⟩
    next => exact nomatch hw
  · rintro ⟨ds, hds, hle, rfl⟩
    -- The digits are read up to the least integer, which is one further than the greatest.
    have hlt : Text.ofDigits 10 ds < 2 ^ 255 + 1 := by
      have hle' := Nat.le_mul_of_pos_right (Text.ofDigits 10 ds) hscale
      omega
    refine ⟨_, (Quantity.readDigits_eq_some_iff (by decide) (by decide) (by decide)).mpr
      ⟨ds, hds, rfl, hlt⟩, ?_⟩
    rw [if_pos hle]

/-- A text with the amount of wei that it is read as. -/
inductive Reads (text : List Char) (w : Word) : Prop where
  | unsigned {ds : List Nat} : Digits 10 (wholePart text ++ kept text) ds →
    w.toNat = Text.ofDigits 10 ds * 10 ^ (decimals - (kept text).length) → Reads text w
  /-- Behind a minus the amount is negated, and comes round to the other end. -/
  | negated {whole : List Char} {ds : List Nat} : wholePart text = '-' :: whole →
    Digits 10 (whole ++ kept text) ds →
    Text.ofDigits 10 ds * 10 ^ (decimals - (kept text).length) ≤ 2 ^ 255 →
    BitVec.ofInt 256 (-(Text.ofDigits 10 ds * 10 ^ (decimals - (kept text).length) : Nat)) = w →
    Reads text w

/-- The parts of a text as wei. -/
def wei? (whole fraction : List Char) (scale : Nat) : Option Word :=
  match whole with
  | '-' :: digits => negated (digits ++ fraction) scale
  | digits => unsigned (digits ++ fraction) scale

/-- Without a minus the amount is unsigned. -/
theorem wei?_of_not_minus {whole : List Char} (h : ∀ digits, whole ≠ '-' :: digits)
    (fraction : List Char) (scale : Nat) :
    wei? whole fraction scale = unsigned (whole ++ fraction) scale := by
  unfold wei?
  split
  next digits => exact absurd rfl (h digits)
  next => rfl

/-- A text is read as its parts are. -/
theorem read_of_split {whole fraction : List Char} (h : split text = .ok (whole, fraction)) :
    read text = .ok w ↔
      wei? whole fraction (10 ^ (decimals - (Bytes.ofText fraction).length)) = some w := by
  unfold read
  rw [h]
  dsimp only
  -- Behind the split only the product can fail, when it does not fit.
  split
  next wei hsome =>
    have hwei : wei? whole fraction (10 ^ (decimals - (Bytes.ofText fraction).length)) =
        some wei := hsome
    rw [hwei, Except.ok.injEq, Option.some.injEq]
  next hnone =>
    have hwei : wei? whole fraction (10 ^ (decimals - (Bytes.ofText fraction).length)) = none :=
      hnone
    rw [hwei]
    exact iff_of_false nofun nofun

/-- No minus stands in front of digits. -/
theorem ne_minus_of_digits {whole fraction : List Char} {ds : List Nat}
    (h : Digits 10 (whole ++ fraction) ds) (digits : List Char) : whole ≠ '-' :: digits := by
  rintro rfl
  have hmem := h.mem_alphabet '-' List.mem_cons_self
  revert hmem
  decide

/-- The decimals of a text that is read are ASCII. -/
theorem Reads.ascii (h : Reads text w) : ∀ c ∈ kept text, c.toNat < 128 := by
  rcases h with ⟨hds, -⟩ | ⟨-, hds, -, -⟩
  · exact fun c hc => hds.ascii c (List.mem_append_right _ hc)
  · exact fun c hc => hds.ascii c (List.mem_append_right _ hc)

/-- **What texts are read, and as what.** -/
theorem read_eq_ok_iff : read text = .ok w ↔ Reads text w := by
  constructor
  · intro h
    rcases hsplit : split text with e | ⟨whole, fraction⟩
    · unfold read at h
      rw [hsplit] at h
      exact nomatch h
    · have hwei := (read_of_split hsplit).mp h
      have hpos : 0 < 10 ^ (decimals - (Bytes.ofText fraction).length) := Nat.pow_pos (by decide)
      -- Digits do not begin with a minus, so that the two ways to be read exclude each other.
      by_cases hminus : ∃ digits, whole = '-' :: digits
      · obtain ⟨digits, rfl⟩ := hminus
        obtain ⟨ds, hds, hle, hw⟩ := (negated_eq_some_iff hpos).mp hwei
        have hascii : ∀ c ∈ fraction, c.toNat < 128 :=
          fun c hc => hds.ascii c (List.mem_append_right _ hc)
        rw [Bytes.length_ofText hascii] at hle hw
        obtain ⟨hwhole, rfl⟩ := eq_of_split hsplit hascii
        exact .negated hwhole.symm hds hle hw
      · rw [wei?_of_not_minus (not_exists.mp hminus)] at hwei
        obtain ⟨ds, hds, hw⟩ := (unsigned_eq_some_iff hpos).mp hwei
        have hascii : ∀ c ∈ fraction, c.toNat < 128 :=
          fun c hc => hds.ascii c (List.mem_append_right _ hc)
        rw [Bytes.length_ofText hascii] at hw
        obtain ⟨rfl, rfl⟩ := eq_of_split hsplit hascii
        exact .unsigned hds hw
  · intro h
    have hpos : 0 < 10 ^ (decimals - (kept text).length) := Nat.pow_pos (by decide)
    rw [read_of_split (split_of_ascii h.ascii), Bytes.length_ofText h.ascii]
    rcases h with ⟨hds, hw⟩ | ⟨hwhole, hds, hle, hw⟩
    · rw [wei?_of_not_minus (ne_minus_of_digits hds)]
      exact (unsigned_eq_some_iff hpos).mpr ⟨_, hds, hw⟩
    · rw [hwhole]
      exact (negated_eq_some_iff hpos).mpr ⟨_, hds, hle, hw⟩

/-! ## Amounts -/

/-- A decimal amount as it is written: a sign, and digits in front of a point and behind it. -/
structure Amount where
  isNegative : Bool
  whole : List Nat
  decimals : List Nat

/-- All digits of an amount as one number. -/
def Amount.units (a : Amount) : Nat := Text.ofDigits 10 (a.whole ++ a.decimals)

/-- The number that is written. -/
def Amount.value (a : Amount) : ℚ :=
  (if a.isNegative then -1 else 1) * (a.units / 10 ^ a.decimals.length)

/-- What stands in front of an amount. -/
def sign (isNegative : Bool) : List Char := if isNegative then ['-'] else []

/-- The text is an amount: digits, at least one of them and with underscores among them, with or
without a minus in front and a point in between. -/
inductive Denotes : List Char → Amount → Prop where
  | whole {isNegative : Bool} {whole : List Char} {ds : List Nat} : Digits 10 whole ds → ds ≠ [] →
    Denotes (sign isNegative ++ whole) ⟨isNegative, ds, []⟩
  | pointed {isNegative : Bool} {whole fraction : List Char} {ds es : List Nat} :
    Digits 10 whole ds → Digits 10 fraction es → ds ++ es ≠ [] →
    Denotes (sign isNegative ++ whole ++ '.' :: fraction) ⟨isNegative, ds, es⟩

/-- The text denotes an amount of ether that is not negative and has at most 18 decimals, and this
is the amount of wei. -/
def IsExact (text : List Char) (wei : Word) : Prop :=
  ∃ a, Denotes text a ∧ a.decimals.length ≤ 18 ∧ 0 ≤ a.value ∧ a.value * 10 ^ 18 = wei.toNat

/-- The text denotes the amount, which has at most 18 decimals. Unless this is zero, there is no
minus in front of it, and no underscore among the first 18 characters behind the point. -/
structure Plain (text : List Char) (a : Amount) : Prop where
  denotes : Denotes text a
  length : a.decimals.length ≤ 18
  zero_or : a.units = 0 ∨ a.isNegative = false ∧ '_' ∉ kept text

/-- The text denotes an amount in a plain way. -/
def IsPlain (text : List Char) : Prop := ∃ a, Plain text a

/-- An amount with at most 18 decimals in wei, without its sign. -/
def Amount.wei (a : Amount) : Nat := a.units * 10 ^ (18 - a.decimals.length)

/-- What is written, times a power of ten, is an integer. -/
theorem Amount.value_mul {a : Amount} (h : a.decimals.length ≤ 18) :
    a.value * 10 ^ 18 = (if a.isNegative then -1 else 1) * (a.wei : ℚ) := by
  have hpow : (10 : ℚ) ^ 18 = 10 ^ (18 - a.decimals.length) * 10 ^ a.decimals.length := by
    rw [← pow_add, Nat.sub_add_cancel h]
  have hne : (10 : ℚ) ^ a.decimals.length ≠ 0 := pow_ne_zero _ (by norm_num)
  have hwei : (a.wei : ℚ) = a.units * 10 ^ (18 - a.decimals.length) := by
    rw [wei, Nat.cast_mul, Nat.cast_pow]
    rfl
  rw [value, hpow, hwei]
  field_simp

/-- Scaling up makes nothing zero. -/
theorem Amount.wei_eq_zero_iff {a : Amount} : a.wei = 0 ↔ a.units = 0 := by
  have hpos : 10 ^ (18 - a.decimals.length) ≠ 0 := Nat.ne_of_gt (Nat.pow_pos (by decide))
  rw [wei, Nat.mul_eq_zero, or_iff_left hpos]

/-- An amount that is not negative has no minus, or is zero. -/
theorem Amount.value_iff {a : Amount} (h : a.decimals.length ≤ 18) (n : Nat) :
    0 ≤ a.value ∧ a.value * 10 ^ 18 = n ↔
      (a.isNegative = false ∨ a.units = 0) ∧ a.wei = n := by
  have hvalue := a.value_mul h
  have hpos : (0 : ℚ) < 10 ^ 18 := by norm_num
  have hnonneg : 0 ≤ a.value ↔ 0 ≤ a.value * 10 ^ 18 := (mul_nonneg_iff_of_pos_right hpos).symm
  rw [hnonneg, hvalue, ← a.wei_eq_zero_iff]
  rcases a.isNegative with _ | _
  · simp
  · simp only [if_true, neg_one_mul, Left.nonneg_neg_iff]
    constructor
    · rintro ⟨hle, heq⟩
      -- Behind a minus only zero is not negative.
      have hzero : a.wei = 0 := by exact_mod_cast le_antisymm hle (Nat.cast_nonneg _)
      rw [hzero, Nat.cast_zero, neg_zero] at heq
      rw [hzero]
      exact ⟨.inr rfl, by exact_mod_cast heq⟩
    · rintro ⟨hzero, rfl⟩
      have hzero := hzero.resolve_left nofun
      rw [hzero]
      simp

/-! ## What is read and what is denoted -/

/-- There is no point among digits and signs. -/
theorem not_point_of_digits {whole : List Char} {ds : List Nat} (h : Digits 10 whole ds)
    (isNegative : Bool) : ∀ c ∈ sign isNegative ++ whole, c ≠ '.' := by
  refine List.forall_mem_append.mpr ⟨?_, fun c hc => ?_⟩
  · rcases isNegative with _ | _
    · exact nofun
    · exact List.forall_mem_singleton.mpr (by decide)
  · rintro rfl
    have hmem := h.mem_alphabet '.' hc
    revert hmem
    decide

/-- Where the digits of an amount stand. -/
theorem Denotes.parts {a : Amount} (h : Denotes text a) : ∃ whole,
    wholePart text = sign a.isNegative ++ whole ∧ Digits 10 whole a.whole ∧
      Digits 10 (behindPoint text) a.decimals := by
  rcases h with ⟨hds, -⟩ | ⟨hds, hes, -⟩
  · obtain ⟨hwhole, hbehind⟩ := parts_of_no_point (not_point_of_digits hds _)
    rw [hwhole, hbehind]
    exact ⟨_, rfl, hds, .nil⟩
  · obtain ⟨hwhole, hbehind⟩ := parts_of_point (not_point_of_digits hds _) _
    rw [hwhole, hbehind]
    exact ⟨_, rfl, hds, hes⟩

/-- The decimals that count are the first ones. Without underscores they are all there are, if these
are not more than 18. -/
theorem digits_kept {es : List Nat} (h : Digits 10 (behindPoint text) es) :
    ∃ fs gs, es = fs ++ gs ∧ Digits 10 (kept text) fs ∧
      (es.length ≤ 18 → '_' ∉ kept text → gs = []) := by
  rw [← List.take_append_drop decimals (behindPoint text)] at h
  obtain ⟨fs, gs, rfl, hfs, hgs⟩ := Quantity.digits_append_iff.mp h
  refine ⟨fs, gs, rfl, hfs, fun hlength hnone => ?_⟩
  have hcount : fs.length + 0 = (kept text).length := by
    rw [← List.count_eq_zero.mpr hnone]
    exact hfs.length_add_count
  rw [List.length_append] at hlength
  -- Either 18 digits were kept, which are all that there may be, or nothing was cut off.
  by_cases hlong : decimals ≤ (behindPoint text).length
  · rw [kept, List.length_take, Nat.min_eq_left hlong] at hcount
    unfold decimals at hcount
    exact List.length_eq_zero_iff.mp (by omega)
  · rw [List.drop_of_length_le (by omega)] at hgs
    exact Quantity.digits_unique hgs .nil

/-- Digits that are read, scaled up by the decimals that seem to be missing. -/
def scaled (text : List Char) (ds : List Nat) : Nat :=
  Text.ofDigits 10 ds * 10 ^ (decimals - (kept text).length)

/-- **What the digits of an amount are read as** is the amount in wei exactly if it is zero, or no
underscore is taken for a decimal. -/
theorem scaled_eq_wei_iff {a : Amount} {whole : List Char} (hwhole : Digits 10 whole a.whole)
    (hbehind : Digits 10 (behindPoint text) a.decimals) (hlength : a.decimals.length ≤ 18) :
    ∃ ds, Digits 10 (whole ++ kept text) ds ∧ (a.units = 0 → scaled text ds = 0) ∧
      (scaled text ds = a.wei ↔ a.units = 0 ∨ '_' ∉ kept text) := by
  obtain ⟨fs, gs, hdecimals, hfs, hall⟩ := digits_kept hbehind
  refine ⟨a.whole ++ fs, hwhole.append hfs, ?_⟩
  have hlong : fs.length + gs.length ≤ 18 := by
    rwa [hdecimals, List.length_append] at hlength
  have hunits : a.units =
      Text.ofDigits 10 (a.whole ++ fs) * 10 ^ gs.length + Text.ofDigits 10 gs := by
    rw [Amount.units, hdecimals, ← List.append_assoc, Quantity.ofDigits_append]
  have hwei : a.wei = a.units * 10 ^ (18 - (fs.length + gs.length)) := by
    rw [Amount.wei, hdecimals, List.length_append]
  have hzero (hunits' : a.units = 0) : scaled text (a.whole ++ fs) = 0 := by
    have hfront := Nat.eq_zero_of_add_eq_zero_right (hunits.symm.trans hunits')
    rw [scaled, (Nat.mul_eq_zero.mp hfront).resolve_right (Nat.ne_of_gt (Nat.pow_pos (by decide))),
      Nat.zero_mul]
  refine ⟨hzero, fun hsame => ?_, fun hplain => ?_⟩
  · -- An underscore makes the number smaller, so only zero stays what it is.
    by_contra hneither
    obtain ⟨hne, hunderscore⟩ := not_or.mp hneither
    have hcount := hfs.length_add_count
    have hpos : 0 < (kept text).count '_' := List.count_pos_iff.mpr (not_not.mp hunderscore)
    have hkept : (kept text).length ≤ 18 := length_kept_le text
    -- For every underscore the digits in front of it lose a factor of ten.
    have hfactor : Text.ofDigits 10 (a.whole ++ fs) * 10 ^ gs.length *
        10 ^ (18 - (fs.length + gs.length)) =
          scaled text (a.whole ++ fs) * 10 ^ (kept text).count '_' := by
      unfold scaled decimals
      rw [Nat.mul_assoc, ← Nat.pow_add, Nat.mul_assoc, ← Nat.pow_add]
      congr 2
      omega
    have hle : scaled text (a.whole ++ fs) * 10 ^ (kept text).count '_' ≤
        scaled text (a.whole ++ fs) := by
      rw [← hfactor, hsame, hwei, hunits]
      exact Nat.mul_le_mul_right _ (Nat.le_add_right _ _)
    have hten : 1 < 10 ^ (kept text).count '_' := Nat.one_lt_pow (by omega) (by decide)
    have hscaled : scaled text (a.whole ++ fs) = 0 := by
      by_contra hscaled
      have hlt := Nat.mul_lt_mul_of_pos_left hten (Nat.pos_of_ne_zero hscaled)
      omega
    exact hne (Amount.wei_eq_zero_iff.mp (hsame.symm.trans hscaled))
  · rcases hplain with hunits' | hnone
    · rw [hzero hunits', Amount.wei_eq_zero_iff.mpr hunits']
    · have hcount := hfs.length_add_count
      rw [List.count_eq_zero.mpr hnone, Nat.add_zero] at hcount
      obtain rfl := hall hlength hnone
      rw [hwei, hunits, scaled, ← hcount, List.length_nil, Nat.pow_zero, Nat.mul_one]
      rfl

/-- The number of wei is that of the digits, if there is no minus. -/
theorem Reads.toNat_eq (h : Reads text w) {ds : List Nat}
    (hds : Digits 10 (wholePart text ++ kept text) ds) : w.toNat = scaled text ds := by
  rcases h with ⟨hds', hw⟩ | ⟨hwhole, -, -, -⟩
  · rw [hw, Quantity.digits_unique hds' hds]
    rfl
  · exact absurd hwhole (ne_minus_of_digits hds _)

/-- Behind a minus it is the negated number of the digits. -/
theorem Reads.eq_ofInt (h : Reads text w) {whole : List Char} (hwhole : wholePart text = '-' :: whole)
    {ds : List Nat} (hds : Digits 10 (whole ++ kept text) ds) :
    w = BitVec.ofInt 256 (-(scaled text ds : Nat)) := by
  rcases h with ⟨hds', -⟩ | ⟨hwhole', hds', -, hw⟩
  · exact absurd hwhole (ne_minus_of_digits hds' _)
  · rw [hwhole, List.cons.injEq] at hwhole'
    obtain rfl := hwhole'.2
    rw [← hw, Quantity.digits_unique hds' hds]
    rfl

/-- **When a text is read as the amount that it denotes.** -/
theorem isExact_iff (h : read text = .ok w) : IsExact text w ↔ IsPlain text := by
  have hreads := read_eq_ok_iff.mp h
  refine exists_congr fun a => ?_
  -- Both sides ask for an amount with few decimals, and differ only in what is said of it then.
  suffices hiff : Denotes text a → a.decimals.length ≤ 18 →
      (0 ≤ a.value ∧ a.value * 10 ^ 18 = w.toNat ↔
        a.units = 0 ∨ a.isNegative = false ∧ '_' ∉ kept text) by
    constructor
    · rintro ⟨hdenotes, hlength, hexact⟩
      exact ⟨hdenotes, hlength, (hiff hdenotes hlength).mp hexact⟩
    · rintro ⟨hdenotes, hlength, hplain⟩
      exact ⟨hdenotes, hlength, (hiff hdenotes hlength).mpr hplain⟩
  intro hdenotes hlength
  rw [Amount.value_iff hlength]
  obtain ⟨whole, hwhole, hdigits, hbehind⟩ := hdenotes.parts
  obtain ⟨ds, hds, hzero, hscaled⟩ := scaled_eq_wei_iff hdigits hbehind hlength
  rcases hsign : a.isNegative with _ | _
  · rw [hsign] at hwhole
    rw [← (show wholePart text = whole from hwhole)] at hds
    rw [hreads.toNat_eq hds, @eq_comm _ a.wei, hscaled]
    simp only [true_or, true_and]
  · rw [hsign] at hwhole
    rw [hreads.eq_ofInt hwhole hds]
    -- A minus leaves zero alone, and no other amount.
    constructor
    · exact fun hexact => .inl (hexact.1.resolve_left nofun)
    · intro hplain
      have hunits := hplain.resolve_right fun hcontra => nomatch hcontra.1
      rw [hzero hunits, Amount.wei_eq_zero_iff.mpr hunits]
      exact ⟨.inr hunits, rfl⟩

end Ether

end Rollup
