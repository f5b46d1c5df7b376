/-
What texts are read as unsigned quantities.

A numeral is digits of a radix, at least one of them and with underscores anywhere among them,
behind the marker of that radix; ten has no marker. `Spells` says this of the characters alone,
without the order in which a reader looks at them. The reader accepts every numeral whose value
fits, and besides these only texts that have no digit at all, which it takes for zero
(`read_eq_some_iff`).

The reader compares with the limit at each digit, not at the end. This comes to the same because a
number never gets smaller when a digit is added.
-/
import Rollup.Proofs.Bytes.Hex
import Rollup.Quantity

set_option autoImplicit false

namespace Rollup.Quantity

open Hex (IsDigit)

/-! ## Digits and underscores -/

/-- The text has these digits of a radix in this order, and underscores anywhere among them. -/
inductive Digits (radix : Nat) : List Char → List Nat → Prop where
  | nil : Digits radix [] []
  | skip {text : List Char} {ds : List Nat} : Digits radix text ds → Digits radix ('_' :: text) ds
  | cons {c : Char} {d : Nat} {text : List Char} {ds : List Nat} : IsDigit c d → d < radix →
    Digits radix text ds → Digits radix (c :: text) (d :: ds)

/-- A character is one digit only. -/
theorem isDigit_unique {c : Char} {d e : Nat} (hd : IsDigit c d) (he : IsDigit c e) : d = e := by
  have hunique : ∀ d < 16, ∀ e < 16, ∀ c ∈ [Hex.lowerDigits[d]?, Hex.upperDigits[d]?],
      c = Hex.lowerDigits[e]? ∨ c = Hex.upperDigits[e]? → d = e := by decide
  refine hunique d hd.lt e he.lt (some c) ?_ (he.imp Eq.symm Eq.symm)
  rcases hd with h | h
  · rw [h]
    exact List.mem_cons_self
  · rw [h]
    exact List.mem_cons_of_mem _ List.mem_cons_self

/-- An underscore is no digit. -/
theorem not_isDigit_underscore {d : Nat} : ¬ IsDigit '_' d := by
  intro h
  have hnone : ∀ d < 16, ¬ IsDigit '_' d := by decide
  exact hnone d h.lt h

/-- A text has its digits in one way only. -/
theorem digits_unique {radix : Nat} {text : List Char} {ds es : List Nat}
    (hds : Digits radix text ds) (hes : Digits radix text es) : ds = es := by
  induction hds generalizing es with
  | nil =>
    cases hes
    rfl
  -- An underscore is skipped in both, since it is no digit.
  | skip _ ih =>
    cases hes with
    | skip hes => exact ih hes
    | cons hc => exact absurd hc not_isDigit_underscore
  | cons hc _ _ ih =>
    cases hes with
    | skip => exact absurd hc not_isDigit_underscore
    | cons he _ hes => rw [isDigit_unique hc he, ih hes]

/-- Texts in a row have the digits of both. -/
theorem Digits.append {radix : Nat} {a b : List Char} {ds es : List Nat} (ha : Digits radix a ds)
    (hb : Digits radix b es) : Digits radix (a ++ b) (ds ++ es) := by
  induction ha with
  | nil => exact hb
  | skip _ ih => exact .skip ih
  | cons hc hd _ ih => exact .cons hc hd ih

/-- The digits of two texts in a row are those of the one and then those of the other. -/
theorem digits_append_iff {radix : Nat} {a b : List Char} {ds : List Nat} :
    Digits radix (a ++ b) ds ↔
      ∃ es fs, ds = es ++ fs ∧ Digits radix a es ∧ Digits radix b fs := by
  constructor
  · intro h
    induction a generalizing ds with
    | nil => exact ⟨[], ds, rfl, .nil, h⟩
    | cons c a ih =>
      -- The first character belongs to the first text, whether it is skipped or a digit.
      rcases h with _ | h | ⟨hc, hd, h⟩
      · obtain ⟨es, fs, hds, hes, hfs⟩ := ih h
        exact ⟨es, fs, hds, .skip hes, hfs⟩
      · obtain ⟨es, fs, rfl, hes, hfs⟩ := ih h
        exact ⟨_ :: es, fs, rfl, .cons hc hd hes, hfs⟩
  · rintro ⟨es, fs, rfl, hes, hfs⟩
    exact hes.append hfs

/-- Each character is a digit or an underscore. -/
theorem Digits.length_add_count {radix : Nat} {text : List Char} {ds : List Nat}
    (h : Digits radix text ds) : ds.length + text.count '_' = text.length := by
  induction h with
  | nil => rfl
  | skip _ ih => rw [List.count_cons_self, List.length_cons, ← ih, Nat.add_assoc]
  | @cons c _ _ _ hc _ _ ih =>
    have hne : c ≠ '_' := by
      rintro rfl
      exact not_isDigit_underscore hc
    rw [List.count_cons_of_ne hne, List.length_cons, List.length_cons, ← ih, Nat.add_right_comm]

/-- Among the first 128 characters the digits are those of the table. -/
theorem digit?_ofNat : ∀ k < 128, ∀ d < 16,
    (Text.digit? (Char.ofNat k) = some d ↔ IsDigit (Char.ofNat k) d) := by
  decide +kernel

/-- Every digit is one of the first 128 characters. -/
theorem toNat_lt_of_digit? {c : Char} {d : Nat} (h : Text.digit? c = some d) : c.toNat < 128 := by
  by_contra hc
  rw [Text.digit?, if_neg (by omega), if_neg (by omega), if_neg (by omega)] at h
  exact nomatch h

/-- A digit that counts less than sixteen is one of the hexadecimal digits. -/
theorem digit?_eq_some_iff {c : Char} {d : Nat} (hd : d < 16) :
    Text.digit? c = some d ↔ IsDigit c d := by
  by_cases hc : c.toNat < 128
  · have h := digit?_ofNat c.toNat hc d hd
    rwa [Char.ofNat_toNat] at h
  · exact iff_of_false (fun h => hc (toNat_lt_of_digit? h)) fun h => hc h.toNat_lt

/-! ## The value of digits -/

/-- Digits that follow a number make it no smaller. -/
theorem le_foldl {radix : Nat} (hradix : 0 < radix) (ds : List Nat) (m : Nat) :
    m ≤ ds.foldl (fun n d => radix * n + d) m := by
  induction ds generalizing m with
  | nil => exact Nat.le_refl m
  | cons d ds ih =>
    calc m ≤ radix * m := Nat.le_mul_of_pos_left m hradix
      _ ≤ radix * m + d := Nat.le_add_right _ _
      _ ≤ _ := ih (radix * m + d)

/-- Digits that follow a number shift it by as many places as they are. -/
theorem foldl_digits (radix : Nat) (ds : List Nat) (m : Nat) :
    ds.foldl (fun n d => radix * n + d) m = m * radix ^ ds.length + Text.ofDigits radix ds := by
  induction ds using List.reverseRecOn with
  | nil => rw [List.length_nil, Nat.pow_zero, Nat.mul_one]; rfl
  | append_singleton ds d ih =>
    rw [List.foldl_append, List.foldl_cons, List.foldl_nil, ih, Text.ofDigits_append_singleton,
      List.length_append, List.length_singleton, Nat.pow_succ, Nat.mul_add,
      Nat.mul_comm radix (m * _), Nat.mul_assoc, Nat.add_assoc]

/-- Digits behind others shift these by their number. -/
theorem ofDigits_append (radix : Nat) (ds es : List Nat) : Text.ofDigits radix (ds ++ es) =
    Text.ofDigits radix ds * radix ^ es.length + Text.ofDigits radix es := by
  rw [Text.ofDigits, List.foldl_append, foldl_digits]
  rfl

/-- An underscore leaves the number as it is. -/
theorem push_underscore (radix limit m : Nat) : push radix limit m '_' = some m := rfl

/-- A digit is read if the number stays within its limit. -/
theorem push_digit {radix limit m d : Nat} {c : Char} (hc : IsDigit c d) (hd : d < radix)
    (hlimit : radix * m + d < limit) : push radix limit m c = some (radix * m + d) := by
  have hne : c ≠ '_' := by
    rintro rfl
    exact not_isDigit_underscore hc
  rw [push, if_neg hne, (digit?_eq_some_iff hc.lt).mpr hc]
  simp only [hd, hlimit, and_self, if_true]

/-- What is read is an underscore, or a digit that keeps the number within its limit. -/
theorem push_eq_some {radix limit m n : Nat} {c : Char} (hradix : radix ≤ 16)
    (h : push radix limit m c = some n) : (c = '_' ∧ n = m) ∨
      ∃ d, IsDigit c d ∧ d < radix ∧ n = radix * m + d ∧ n < limit := by
  by_cases hc : c = '_'
  · rw [push, if_pos hc, Option.some.injEq] at h
    exact .inl ⟨hc, h.symm⟩
  · rw [push, if_neg hc] at h
    split at h
    · exact nomatch h
    · -- A digit is taken if the radix has it and the number stays below the limit.
      rename_i d hd
      by_cases hfits : d < radix ∧ radix * m + d < limit
      · rw [if_pos hfits, Option.some.injEq] at h
        subst h
        exact .inr ⟨d, (digit?_eq_some_iff (by omega)).mp hd, hfits.1, rfl, hfits.2⟩
      · rw [if_neg hfits] at h
        exact nomatch h

/-- Reading goes on from any number that is small enough. -/
theorem foldlM_push_eq_some_iff {radix limit : Nat} (hpos : 0 < radix) (hradix : radix ≤ 16)
    {text : List Char} {m n : Nat} (hm : m < limit) :
    text.foldlM (push radix limit) m = some n ↔
      ∃ ds, Digits radix text ds ∧ ds.foldl (fun n d => radix * n + d) m = n ∧ n < limit := by
  constructor
  · intro h
    -- Forwards the induction is on the text, and backwards on how the digits are found in it.
    induction text generalizing m with
    | nil =>
      rw [List.foldlM_nil] at h
      obtain rfl := Option.some.inj h
      exact ⟨[], .nil, rfl, hm⟩
    | cons c text ih =>
      rw [List.foldlM_cons, Option.bind_eq_bind, Option.bind_eq_some_iff] at h
      obtain ⟨k, hk, hrest⟩ := h
      rcases push_eq_some hradix hk with ⟨rfl, rfl⟩ | ⟨d, hc, hd, rfl, hlimit⟩
      · obtain ⟨ds, hds, hvalue⟩ := ih hm hrest
        exact ⟨ds, .skip hds, hvalue⟩
      · obtain ⟨ds, hds, hvalue⟩ := ih hlimit hrest
        exact ⟨d :: ds, .cons hc hd hds, hvalue⟩
  · rintro ⟨ds, hds, hvalue, hlimit⟩
    induction hds generalizing m with
    | nil => rw [List.foldlM_nil, ← hvalue]; rfl
    | skip _ ih =>
      rw [List.foldlM_cons, push_underscore, Option.bind_eq_bind, Option.bind_some]
      exact ih hm hvalue
    | cons hc hd _ ih =>
      rw [List.foldl_cons] at hvalue
      -- The number so far is at most the whole one, which is below the limit.
      have hsofar := Nat.lt_of_le_of_lt (le_foldl hpos _ _) (hvalue ▸ hlimit)
      rw [List.foldlM_cons, push_digit hc hd hsofar, Option.bind_eq_bind, Option.bind_some]
      exact ih hsofar hvalue

/-- Reading begins from zero. -/
theorem readDigits_eq_some_iff {radix limit : Nat} (hpos : 0 < radix) (hradix : radix ≤ 16)
    (hlimit : 0 < limit) {text : List Char} {n : Nat} : readDigits radix limit text = some n ↔
      ∃ ds, Digits radix text ds ∧ Text.ofDigits radix ds = n ∧ n < limit :=
  foldlM_push_eq_some_iff hpos hradix hlimit

/-! ## Markers -/

/-- What stands in front of the digits of a radix. -/
inductive Marker : Nat → List Char → Prop where
  | decimal : Marker 10 []
  | hexadecimal {c : Char} : c = 'x' ∨ c = 'X' → Marker 16 ['0', c]
  | octal {c : Char} : c = 'o' ∨ c = 'O' → Marker 8 ['0', c]
  | binary {c : Char} : c = 'b' ∨ c = 'B' → Marker 2 ['0', c]

/-- Digits of every marked radix are hexadecimal digits. -/
theorem Marker.bounds {radix : Nat} {marker : List Char} (h : Marker radix marker) :
    0 < radix ∧ radix ≤ 16 := by
  cases h <;> decide

/-- What the radix is taken from is a marker in front of the rest. -/
theorem marker_radix (text : List Char) :
    ∃ marker, Marker (radix text).1 marker ∧ text = marker ++ (radix text).2 := by
  unfold radix
  split
  · exact ⟨_, .hexadecimal (.inl rfl), rfl⟩
  · exact ⟨_, .hexadecimal (.inr rfl), rfl⟩
  · exact ⟨_, .octal (.inl rfl), rfl⟩
  · exact ⟨_, .octal (.inr rfl), rfl⟩
  · exact ⟨_, .binary (.inl rfl), rfl⟩
  · exact ⟨_, .binary (.inr rfl), rfl⟩
  · exact ⟨_, .decimal, rfl⟩

/-- No letter stands among decimal digits. -/
theorem Digits.ne_letter {text : List Char} {ds : List Nat} (h : Digits 10 text ds) :
    ∀ c ∈ text, c ∉ ['x', 'X', 'o', 'O', 'b', 'B'] := by
  induction h with
  | nil => exact nofun
  | skip _ ih => exact List.forall_mem_cons.mpr ⟨by decide, ih⟩
  | cons hc hd _ ih =>
    refine List.forall_mem_cons.mpr ⟨fun hletter => ?_, ih⟩
    -- The letters b and B are digits in hexadecimal only.
    have hnone : ∀ d < 10, ['x', 'X', 'o', 'O', 'b', 'B'].all (fun c => ¬ IsDigit c d) = true := by
      decide
    exact of_decide_eq_true (List.all_eq_true.mp (hnone _ hd) _ hletter) hc

/-- **The digits behind a marker are found behind it**, also where there is none to find. -/
theorem radix_append {r : Nat} {marker digits : List Char} {ds : List Nat} (hm : Marker r marker)
    (hds : Digits r digits ds) : radix (marker ++ digits) = (r, digits) := by
  cases hm with
  | decimal =>
    rw [List.nil_append]
    have hne := hds.ne_letter
    unfold radix
    split
    -- Any marker would have a letter in the second place.
    iterate 6 exact absurd (by decide) (hne _ (List.mem_cons_of_mem _ List.mem_cons_self))
    rfl
  | hexadecimal hc => rcases hc with rfl | rfl <;> rfl
  | octal hc => rcases hc with rfl | rfl <;> rfl
  | binary hc => rcases hc with rfl | rfl <;> rfl

/-! ## Characters -/

/-- The characters that stand in numerals and in their markers. -/
def alphabet : List Char := "0123456789abcdefABCDEFxXoO_".toList

/-- Digits are written with these characters. -/
theorem Digits.mem_alphabet {radix : Nat} {text : List Char} {ds : List Nat}
    (h : Digits radix text ds) : ∀ c ∈ text, c ∈ alphabet := by
  induction h with
  | nil => exact nofun
  | skip _ ih => exact List.forall_mem_cons.mpr ⟨by decide, ih⟩
  | cons hc _ _ ih =>
    have hall : (Hex.lowerDigits ++ Hex.upperDigits).all (· ∈ alphabet) = true := by decide
    exact List.forall_mem_cons.mpr ⟨of_decide_eq_true (hc.isAnyDigit.of_all hall), ih⟩

/-- Markers are written with these characters. -/
theorem Marker.mem_alphabet {radix : Nat} {marker : List Char} (h : Marker radix marker) :
    ∀ c ∈ marker, c ∈ alphabet := by
  have hpair {c : Char} (hc : c ∈ alphabet) : ∀ b ∈ ['0', c], b ∈ alphabet :=
    List.forall_mem_cons.mpr ⟨by decide, List.forall_mem_singleton.mpr hc⟩
  cases h with
  | decimal => exact nofun
  | hexadecimal hc => rcases hc with rfl | rfl <;> exact hpair (by decide)
  | octal hc => rcases hc with rfl | rfl <;> exact hpair (by decide)
  | binary hc => rcases hc with rfl | rfl <;> exact hpair (by decide)

/-! ## Numerals -/

/-- The text is a numeral of the number: digits of a radix, at least one of them and with
underscores among them, behind the marker of the radix. -/
def Spells (text : List Char) (n : Nat) : Prop :=
  ∃ radix marker digits ds, Marker radix marker ∧ text = marker ++ digits ∧
    Digits radix digits ds ∧ ds ≠ [] ∧ Text.ofDigits radix ds = n

/-- The text has no digits: a marker or none, and nothing but underscores behind it. -/
def IsBare (text : List Char) : Prop :=
  ∃ radix marker rest, Marker radix marker ∧ text = marker ++ rest ∧ ∀ c ∈ rest, c = '_'

/-- A text without digits is nothing but underscores. -/
theorem digits_nil_iff {radix : Nat} {text : List Char} :
    Digits radix text [] ↔ ∀ c ∈ text, c = '_' := by
  constructor
  · intro h
    -- The list of digits has to be a variable for the induction.
    generalize hds : ([] : List Nat) = ds at h
    induction h with
    | nil => exact nofun
    | skip _ ih => exact List.forall_mem_cons.mpr ⟨rfl, ih hds⟩
    | cons => exact nomatch hds
  · intro h
    induction text with
    | nil => exact .nil
    | cons c text ih =>
      obtain ⟨rfl, htext⟩ := List.forall_mem_cons.mp h
      exact .skip (ih htext)

/-- Numerals are written with these characters. -/
theorem Spells.mem_alphabet {text : List Char} {n : Nat} (h : Spells text n) :
    ∀ c ∈ text, c ∈ alphabet := by
  obtain ⟨radix, marker, digits, ds, hmarker, rfl, hds, -, -⟩ := h
  exact List.forall_mem_append.mpr ⟨hmarker.mem_alphabet, hds.mem_alphabet⟩

/-- Texts without digits are written with these characters, too. -/
theorem IsBare.mem_alphabet {text : List Char} (h : IsBare text) : ∀ c ∈ text, c ∈ alphabet := by
  obtain ⟨radix, marker, rest, hmarker, rfl, hrest⟩ := h
  have hdigits : Digits radix rest [] := digits_nil_iff.mpr hrest
  exact List.forall_mem_append.mpr ⟨hmarker.mem_alphabet, hdigits.mem_alphabet⟩

/-- A numeral has a digit, so that it is never bare. -/
theorem Spells.not_isBare {text : List Char} {n : Nat} (h : Spells text n) : ¬ IsBare text := by
  obtain ⟨r, marker, digits, ds, hmarker, rfl, hds, hne, -⟩ := h
  rintro ⟨r', marker', rest, hmarker', htext, hrest⟩
  -- One text has one marker, and behind it are digits and no digits.
  have hradix := radix_append hmarker hds
  have hds' : Digits r' rest [] := digits_nil_iff.mpr hrest
  rw [htext, radix_append hmarker' hds', Prod.mk.injEq] at hradix
  obtain ⟨rfl, rfl⟩ := hradix
  exact hne (digits_unique hds hds')

/-- **What is read as a quantity**: the numerals of numbers that fit, and the texts without digits,
as zero. -/
theorem read_eq_some_iff {bits : Nat} {text : List Char} {n : Nat} :
    read bits text = some n ↔ n < 2 ^ bits ∧ (Spells text n ∨ IsBare text ∧ n = 0) := by
  have hlimit : 0 < 2 ^ bits := Nat.two_pow_pos bits
  constructor
  · intro h
    obtain ⟨marker, hmarker, htext⟩ := marker_radix text
    obtain ⟨hpos, hradix⟩ := hmarker.bounds
    obtain ⟨ds, hds, hvalue, hlt⟩ := (readDigits_eq_some_iff hpos hradix hlimit).mp h
    refine ⟨hlt, ?_⟩
    -- A text with digits is a numeral, and one without is bare.
    by_cases hnil : ds = []
    · rw [hnil] at hds hvalue
      exact .inr ⟨⟨_, marker, _, hmarker, htext, digits_nil_iff.mp hds⟩, hvalue.symm⟩
    · exact .inl ⟨_, marker, _, ds, hmarker, htext, hds, hnil, hvalue⟩
  · rintro ⟨hlt, h⟩
    -- Both kinds of text are a marker with digits behind it.
    obtain ⟨r, marker, digits, ds, hmarker, rfl, hds, hvalue⟩ : ∃ r marker digits ds,
        Marker r marker ∧ text = marker ++ digits ∧ Digits r digits ds ∧
          Text.ofDigits r ds = n := by
      rcases h with ⟨r, marker, digits, ds, hmarker, htext, hds, -, hvalue⟩ |
        ⟨⟨r, marker, rest, hmarker, htext, hrest⟩, rfl⟩
      · exact ⟨r, marker, digits, ds, hmarker, htext, hds, hvalue⟩
      · exact ⟨r, marker, rest, [], hmarker, htext, digits_nil_iff.mpr hrest, rfl⟩
    obtain ⟨hpos, hradix⟩ := hmarker.bounds
    unfold read
    rw [radix_append hmarker hds]
    exact (readDigits_eq_some_iff hpos hradix hlimit).mpr ⟨ds, hds, hvalue, hlt⟩

/-! ## Written numbers -/

/-- A number as it is written: in decimal, or in hexadecimal behind a marker and in any case of the
letters, with any number of zeros in front. -/
inductive Renders (n : Nat) : List Char → Prop where
  | decimal (zeros : Nat) : Renders n (List.replicate zeros '0' ++ Text.numeral 10 n)
  | hexadecimal {c : Char} {digits : List Char} (zeros : Nat) : c = 'x' ∨ c = 'X' →
    digits.map Char.toLower = List.replicate zeros '0' ++ Text.numeral 16 n →
      Renders n ('0' :: c :: digits)

/-- The digits of a number are below the radix. -/
theorem lt_of_mem_digits {radix n : Nat} (h : 2 ≤ radix) : ∀ d ∈ Text.digits radix n, d < radix := by
  induction n using Nat.strongRecOn with
  | ind n ih =>
    rw [Text.digits]
    split
    · rename_i hn
      rw [List.forall_mem_singleton]
      omega
    · rename_i hn
      rw [List.forall_mem_append, List.forall_mem_singleton]
      exact ⟨ih _ (Nat.div_lt_self (by omega) h), Nat.mod_lt _ (by omega)⟩

theorem digits_ne_nil (radix n : Nat) : Text.digits radix n ≠ [] := by
  rw [Text.digits]
  split <;> simp

/-- Zeros in front do not count. -/
theorem ofDigits_zeros (radix zeros : Nat) (ds : List Nat) :
    Text.ofDigits radix (List.replicate zeros 0 ++ ds) = Text.ofDigits radix ds := by
  induction zeros with
  | zero => rfl
  | succ zeros ih =>
    rw [List.replicate_succ, List.cons_append, Text.ofDigits, List.foldl_cons, Nat.mul_zero,
      Nat.add_zero]
    exact ih

/-- Zeros in front are written as zeros. -/
theorem map_digitChar_zeros (radix zeros n : Nat) :
    (List.replicate zeros 0 ++ Text.digits radix n).map Text.digitChar =
      List.replicate zeros '0' ++ Text.numeral radix n := by
  rw [List.map_append, List.map_replicate]
  rfl

/-- Among the first 128 characters those are digits that are digits in lower case. -/
theorem toLower_ofNat : ∀ k < 128, ∀ d < 16,
    (Char.ofNat k).toLower = Text.digitChar d → IsDigit (Char.ofNat k) d := by
  decide +kernel

/-- A character is a digit if it is one in lower case. -/
theorem isDigit_of_toLower {c : Char} {d : Nat} (hd : d < 16)
    (h : c.toLower = Text.digitChar d) : IsDigit c d := by
  have hc : c.toNat < 128 := by
    by_contra hge
    -- Other characters stay as they are, and are no digits.
    have hsame : c.toLower = c := by
      apply dif_neg
      rintro ⟨-, hle⟩
      exact hge (Nat.lt_of_le_of_lt (show c.val.toNat ≤ 90 from hle) (by decide))
    have hascii : ∀ d < 16, (Text.digitChar d).toNat < 128 := by decide
    rw [← hsame, h] at hge
    exact hge (hascii d hd)
  have hdigit := toLower_ofNat c.toNat hc d hd
  rw [Char.ofNat_toNat] at hdigit
  exact hdigit h

/-- The case of the letters does not matter. -/
theorem digits_of_toLower {radix : Nat} (hradix : radix ≤ 16) {text : List Char} {ds : List Nat}
    (htext : text.map Char.toLower = ds.map Text.digitChar) (hds : ∀ d ∈ ds, d < radix) :
    Digits radix text ds := by
  induction ds generalizing text with
  | nil =>
    rw [List.map_nil, List.map_eq_nil_iff] at htext
    rw [htext]
    exact .nil
  | cons d ds ih =>
    obtain ⟨c, rest, rfl, hc, hrest⟩ := List.map_eq_cons_iff.mp htext
    obtain ⟨hd, hds⟩ := List.forall_mem_cons.mp hds
    exact .cons (isDigit_of_toLower (Nat.lt_of_lt_of_le hd hradix) hc) hd (ih hrest hds)

theorem toLower_digitChar : ∀ d < 16, (Text.digitChar d).toLower = Text.digitChar d := by decide

/-- **A number that is written down is spelled.** -/
theorem Renders.spells {n : Nat} {text : List Char} (h : Renders n text) : Spells text n := by
  have hvalue (radix zeros : Nat) :
      Text.ofDigits radix (List.replicate zeros 0 ++ Text.digits radix n) = n := by
    rw [ofDigits_zeros, Text.ofDigits_digits]
  have hne (radix zeros : Nat) : List.replicate zeros 0 ++ Text.digits radix n ≠ [] :=
    List.append_ne_nil_of_right_ne_nil _ (digits_ne_nil radix n)
  have hlt {radix : Nat} (hradix : 2 ≤ radix) (zeros : Nat) :
      ∀ d ∈ List.replicate zeros 0 ++ Text.digits radix n, d < radix := by
    rw [List.forall_mem_append]
    refine ⟨fun d hd => ?_, lt_of_mem_digits hradix⟩
    rw [List.eq_of_mem_replicate hd]
    omega
  -- Both ways to write the number are digits with zeros in front of them, behind a marker or none.
  cases h with
  | decimal zeros =>
    have hten : ∀ d ∈ List.replicate zeros 0 ++ Text.digits 10 n, d < 10 := hlt (by decide) zeros
    refine ⟨10, [], List.replicate zeros '0' ++ Text.numeral 10 n, _, .decimal, rfl,
      digits_of_toLower (by decide) ?_ hten, hne 10 zeros, hvalue 10 zeros⟩
    rw [← map_digitChar_zeros, List.map_map]
    exact List.map_congr_left fun d hd => toLower_digitChar d (by have := hten d hd; omega)
  | hexadecimal zeros hc hdigits =>
    rw [← map_digitChar_zeros] at hdigits
    exact ⟨16, _, _, _, .hexadecimal hc, rfl,
      digits_of_toLower (Nat.le_refl 16) hdigits (hlt (by decide) zeros), hne 16 zeros,
      hvalue 16 zeros⟩

end Rollup.Quantity
