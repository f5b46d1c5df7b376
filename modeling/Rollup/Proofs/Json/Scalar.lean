/-
Single values are read as they are written.

A reader `Takes` a text for a value if it takes the text off the front of any other text that may
stand behind a value, with any white space in front. This is all that readers of arrays and objects
need to know about the readers of what stands in them.

A string is taken off in steps of one character, or of a pair of surrogates.
-/
import Mathlib.Data.List.Forall2
import Rollup.Proofs.Json.Number

set_option autoImplicit false

namespace Rollup.Json

open Text (IsDigits IsNumeral isDecimal)

/-! ## Strings -/

/-- Hexadecimal digits are read in a row. -/
theorem mapM_hexDigit? {digits : List Char} {ds : List Nat}
    (h : List.Forall₂ Hex.IsDigit digits ds) : digits.mapM hexDigit? = some ds := by
  induction h with
  | nil => rfl
  | @cons c d digits ds hc _ ih =>
    have hdigit : hexDigit? c = some d := by
      rw [hexDigit?, (Quantity.digit?_eq_some_iff hc.lt).mpr hc]
      exact if_pos (decide_eq_true hc.lt)
    rw [List.mapM_cons, hdigit, ih]
    rfl

/-- Four digits are read as the unit that they spell, whatever stands behind them. -/
theorem takeUnit_of_isUnit {digits : List Char} {unit : Nat} (h : IsUnit digits unit)
    (rest : List Char) : takeUnit (digits ++ rest) = .ok (unit, rest) := by
  obtain ⟨ds, hdigits, hlength, rfl⟩ := h
  have hfour : digits.length = 4 := hdigits.length_eq.trans hlength
  have htake : (digits ++ rest).take 4 = digits := by rw [← hfour, List.take_left]
  have hdrop : (digits ++ rest).drop 4 = rest := by rw [← hfour, List.drop_left]
  have hbytes : hasBytes 4 (digits ++ rest) = true := by
    rw [hasBytes, htake]
    -- Each of the four digits has at least one byte.
    match digits, hfour with
    | [a, b, c, d], _ =>
      have ha := a.utf8Size_pos
      have hb := b.utf8Size_pos
      have hc := c.utf8Size_pos
      have hd := d.utf8Size_pos
      simp only [List.foldl_cons, List.foldl_nil]
      exact decide_eq_true (by omega)
  rw [takeUnit, hbytes, htake, hdrop, mapM_hexDigit? hdigits]
  simp only [Bool.not_true, Bool.false_eq_true, if_false, hlength, if_true,
    Text.value_eq_ofDigits]

/-- No character is half of a pair of surrogates. -/
theorem not_isSurrogate (c : Char) : isHigh c.toNat = false ∧ isLow c.toNat = false := by
  have hvalid : c.toNat < 0xD800 ∨ 0xDFFF < c.toNat ∧ c.toNat < 0x110000 := c.valid
  simp only [isHigh, isLow, Bool.and_eq_false_iff, decide_eq_false_iff_not]
  omega

/-- A unit that is a character by itself is read as that character. -/
theorem takeEscape_unit {digits : List Char} {c : Char} (h : IsUnit digits c.toNat)
    (rest : List Char) : takeEscape .wanted ('u' :: (digits ++ rest)) = .ok (c, rest) := by
  obtain ⟨hhigh, hlow⟩ := not_isSurrogate c
  rw [takeEscape, if_pos rfl, takeCodePoint, takeUnit_of_isUnit h]
  simp only [bind, Except.bind, hlow, hhigh, Bool.false_eq_true, if_false, Char.ofNat_toNat]

/-- Two halves of a surrogate pair are read as one character. -/
theorem takeEscape_pair {first second : List Char} {high low : Nat} {c : Char}
    (hfirst : IsUnit first high) (hsecond : IsUnit second low) (hhigh : isHigh high = true)
    (hlow : isLow low = true) (hc : c.toNat = 0x10000 + 0x400 * (high - 0xD800) + (low - 0xDC00))
    (rest : List Char) :
    takeEscape .wanted ('u' :: (first ++ '\\' :: 'u' :: (second ++ rest))) = .ok (c, rest) := by
  -- A first half is not taken for a second one.
  have hnotlow : isLow high = false := by
    simp only [isHigh, isLow, Bool.and_eq_true, Bool.and_eq_false_iff, decide_eq_true_iff,
      decide_eq_false_iff_not] at hhigh ⊢
    omega
  rw [takeEscape, if_pos rfl, takeCodePoint, takeUnit_of_isUnit hfirst]
  simp only [bind, Except.bind, hnotlow, hhigh, Bool.false_eq_true, if_false, if_true,
    takeSecondHalf, takeUnit_of_isUnit hsecond, hlow, ← hc, Char.ofNat_toNat]

/-- Where the content does not matter, no unit is looked at. -/
theorem takeEscape_skipped {digits : List Char} {unit : Nat} (h : IsUnit digits unit)
    (rest : List Char) :
    takeEscape .skipped ('u' :: (digits ++ rest)) = .ok (Char.ofNat unit, rest) := by
  rw [takeEscape, if_pos rfl, takeCodePoint, takeUnit_of_isUnit h]
  rfl

/-- A letter behind a backslash is read as what it stands for. -/
theorem takeEscape_letter {l c : Char} (h : (l, c) ∈ letters) (a : Attention) (rest : List Char) :
    takeEscape a (l :: rest) = .ok (c, rest) := by
  simp only [letters, List.mem_cons, List.not_mem_nil, or_false, Prod.mk.injEq] at h
  obtain ⟨rfl, rfl⟩ | ⟨rfl, rfl⟩ | ⟨rfl, rfl⟩ | ⟨rfl, rfl⟩ | ⟨rfl, rfl⟩ | ⟨rfl, rfl⟩ | ⟨rfl, rfl⟩ |
    ⟨rfl, rfl⟩ := h <;> rfl

section

variable {a : Attention} {fuel : Fuel} {f c : Char} {before text rest : List Char}

theorem takeContent_quote :
    takeContent a (f :: fuel) before (quoteMark :: rest) = .ok (before.reverse, rest) := rfl

theorem takeContent_plain (h : IsPlain c) :
    takeContent a (f :: fuel) before (c :: text) = takeContent a fuel (c :: before) text := by
  rw [takeContent, if_neg h.ne_quote, if_neg h.ne_backslash, if_neg (Nat.not_lt.mpr h.not_control)]

/-- An escape adds the character that it stands for. -/
theorem takeContent_escape (h : takeEscape a text = .ok (c, rest)) :
    takeContent a (f :: fuel) before ('\\' :: text) = takeContent a fuel (c :: before) rest := by
  rw [takeContent, if_neg (by decide), if_pos rfl, h]
  rfl

end

/-- **The content of a string is what its text spells.** Each step takes at least one character off
the text, so that the fuel lasts up to the quotation mark. -/
theorem takeContent_of_spells {body content : List Char} (h : Spells body content) {fuel : Fuel}
    (hfuel : body.length < fuel.length) (before rest : List Char) :
    takeContent .wanted fuel before (body ++ quoteMark :: rest) =
      .ok (before.reverse ++ content, rest) := by
  -- The induction is on how the content is spelled, with one case for each way to write a
  -- character.
  induction h generalizing fuel before with
  | nil =>
    obtain ⟨f, fuel, rfl⟩ := List.exists_cons_of_length_pos hfuel
    rw [List.append_nil]
    exact takeContent_quote
  | @plain c body content hc _ ih =>
    obtain ⟨f, fuel, rfl⟩ := List.exists_cons_of_length_pos (Nat.zero_lt_of_lt hfuel)
    rw [List.cons_append, takeContent_plain hc, ih (Nat.lt_of_succ_lt_succ hfuel),
      List.reverse_cons, List.append_assoc]
    rfl
  | @letter l c body content hl _ ih =>
    obtain ⟨f, fuel, rfl⟩ := List.exists_cons_of_length_pos (Nat.zero_lt_of_lt hfuel)
    simp only [List.length_cons] at hfuel
    rw [List.cons_append, List.cons_append, takeContent_escape (takeEscape_letter hl _ _),
      ih (by omega), List.reverse_cons, List.append_assoc]
    rfl
  | @unit digits c body content hunit _ ih =>
    obtain ⟨f, fuel, rfl⟩ := List.exists_cons_of_length_pos (Nat.zero_lt_of_lt hfuel)
    simp only [List.length_cons, List.length_append] at hfuel
    rw [List.cons_append, List.cons_append, List.append_assoc,
      takeContent_escape (takeEscape_unit hunit _), ih (by omega), List.reverse_cons,
      List.append_assoc]
    rfl
  | @pair first second high low c body content hfirst hsecond hhigh hlow hc _ ih =>
    obtain ⟨f, fuel, rfl⟩ := List.exists_cons_of_length_pos (Nat.zero_lt_of_lt hfuel)
    simp only [List.length_cons, List.length_append] at hfuel
    rw [List.cons_append, List.cons_append, List.append_assoc, List.cons_append, List.cons_append,
      List.append_assoc,
      takeContent_escape (takeEscape_pair hfirst hsecond hhigh hlow hc _), ih (by omega),
      List.reverse_cons, List.append_assoc]
    rfl

/-- A string is read as its content. -/
theorem takeString_of_spells {body content : List Char} (h : Spells body content)
    (rest : List Char) : takeString .wanted (body ++ quoteMark :: rest) = .ok (content, rest) := by
  rw [takeString, takeContent_of_spells h]
  · rfl
  · simp only [fuelFor, List.length_cons, List.length_append]
    omega

/-- To skip a string it need not be known what it spells. -/
theorem exists_takeString_of_isBody {body : List Char} (h : IsBody body) (rest : List Char) :
    ∃ content, takeString .skipped (body ++ quoteMark :: rest) = .ok (content, rest) := by
  have hcontent : ∀ (fuel : Fuel) (before : List Char), body.length < fuel.length →
      ∃ content, takeContent .skipped fuel before (body ++ quoteMark :: rest) =
        .ok (content, rest) := by
    induction h with
    | nil =>
      intro fuel before hfuel
      obtain ⟨f, fuel, rfl⟩ := List.exists_cons_of_length_pos hfuel
      exact ⟨_, takeContent_quote⟩
    | plain hc _ ih =>
      intro fuel before hfuel
      obtain ⟨f, fuel, rfl⟩ := List.exists_cons_of_length_pos (Nat.zero_lt_of_lt hfuel)
      rw [List.cons_append, takeContent_plain hc]
      exact ih _ _ (Nat.lt_of_succ_lt_succ hfuel)
    | letter hl _ ih =>
      intro fuel before hfuel
      obtain ⟨f, fuel, rfl⟩ := List.exists_cons_of_length_pos (Nat.zero_lt_of_lt hfuel)
      simp only [List.length_cons] at hfuel
      rw [List.cons_append, List.cons_append, takeContent_escape (takeEscape_letter hl _ _)]
      exact ih _ _ (by omega)
    -- A single half of a pair is enough here, so that pairs need no case of their own.
    | unit hunit _ ih =>
      intro fuel before hfuel
      obtain ⟨f, fuel, rfl⟩ := List.exists_cons_of_length_pos (Nat.zero_lt_of_lt hfuel)
      simp only [List.length_cons, List.length_append] at hfuel
      rw [List.cons_append, List.cons_append, List.append_assoc,
        takeContent_escape (takeEscape_skipped hunit _)]
      exact ih _ _ (by omega)
  apply hcontent
  simp only [fuelFor, List.length_cons, List.length_append]
  omega

/-! ## Single values -/

/-- The characters that a value begins with that holds no others. -/
def scalarBeginnings : List Char := quoteMark :: "-0123456789ntf".toList

/-- The characters that a value begins with. -/
def beginnings : List Char := '[' :: '\x7b' :: scalarBeginnings

/-- The text begins like a value. -/
def Begins (text : List Char) : Prop := ∃ c ∈ beginnings, ∃ rest, text = c :: rest

/-- No value begins with white space, or with what ends or parts values. -/
theorem beginnings_spec : ∀ c ∈ beginnings,
    isGap c = false ∧ c ≠ ',' ∧ c ≠ ']' ∧ c ≠ '\x7d' := by
  have hall : beginnings.all fun c => !isGap c && c != ',' && c != ']' && c != '\x7d' := by decide
  intro c hc
  simpa [and_assoc] using List.all_eq_true.mp hall c hc

/-- A single value does not begin like a list or an object. -/
theorem scalarBeginnings_spec : ∀ c ∈ scalarBeginnings,
    c ∈ beginnings ∧ c ≠ '[' ∧ c ≠ '\x7b' := by
  have hall : scalarBeginnings.all fun c => c != '[' && c != '\x7b' := by decide
  intro c hc
  have hne : c ≠ '[' ∧ c ≠ '\x7b' := by simpa using List.all_eq_true.mp hall c hc
  exact ⟨List.mem_cons_of_mem _ (List.mem_cons_of_mem _ hc), hne⟩

/-- Numbers begin with any digit. -/
theorem mem_scalarBeginnings_of_isDecimal {c : Char} (h : isDecimal c = true) :
    c ∈ scalarBeginnings := by
  have hall : ∀ d < 10, Text.digitChar d ∈ scalarBeginnings := by decide
  obtain ⟨hlt, hc⟩ := Text.digitChar_of_isDecimal h
  exact hc ▸ hall _ hlt

/-- A text is a way of writing a value that holds no others. -/
inductive Scalar.Writes : Scalar → List Char → Prop where
  | null : Writes .null "null".toList
  | true : Writes (.bool true) "true".toList
  | false : Writes (.bool false) "false".toList
  | number {n : Number} : n.Sound → n.surplus? = none → Writes (.number n) n.text
  | string {body content : List Char} : Spells body content →
    Writes (.string content) (quoted body)

/-- A number begins with a minus sign or with a digit. -/
theorem Number.Sound.exists_cons {n : Number} (h : n.Sound) :
    ∃ c rest, n.text = c :: rest ∧ (c = '-' ∨ isDecimal c = true) := by
  obtain ⟨k, hwhole⟩ := h.whole
  rw [Number.text_eq]
  rcases n.negative with _ | _
  · obtain ⟨c, rest, hcons⟩ := List.exists_cons_of_ne_nil hwhole.ne_nil
    have hc : isDecimal c = true := hwhole.digits c (hcons ▸ List.mem_cons_self)
    rw [hcons]
    exact ⟨c, _, rfl, .inr hc⟩
  · exact ⟨'-', _, rfl, .inl rfl⟩

namespace Scalar

variable {rest : List Char}

/-- A number is read, if it is not too long for what is wanted of it. -/
theorem take_number {n : Number} (h : n.Sound) {a : Attention}
    (ha : a = .wanted → n.surplus? = none) (hrest : Ends rest) :
    take a (n.text ++ rest) = .ok (.number n, rest) := by
  obtain ⟨c, text, hcons, hc⟩ := h.exists_cons
  -- What begins like a number is no string.
  have hquote : c ≠ quoteMark := by
    rintro rfl
    rcases hc with hc | hc <;> exact absurd hc (by decide)
  have hnumber : (c = '-' || isDecimal c) = true := by
    rw [Bool.or_eq_true, decide_eq_true_iff]
    exact hc
  have htake := Number.take_text h ha hrest
  rw [hcons, List.cons_append] at htake ⊢
  rw [take, if_neg hquote, if_pos hnumber, htake]
  rfl

/-- A value in quotation marks is read as a string. -/
theorem take_quoted {body content : List Char} {a : Attention}
    (h : takeString a (body ++ quoteMark :: rest) = .ok (content, rest)) :
    take a (quoted body ++ rest) = .ok (.string content, rest) := by
  rw [quoted_append, take, if_pos rfl, h]
  rfl

/-- **A single value is read as it is written.** -/
theorem Writes.take_append {s : Scalar} {text : List Char} (h : s.Writes text)
    (hrest : Ends rest) : take .wanted (text ++ rest) = .ok (s, rest) := by
  cases h with
  | null => rfl
  | true => rfl
  | false => rfl
  | number hn hfits => exact take_number hn (fun _ => hfits) hrest
  | string hbody => exact take_quoted (takeString_of_spells hbody rest)

/-- A single value is not empty, and its first character says what it is. -/
theorem Writes.exists_cons {s : Scalar} {text : List Char} (h : s.Writes text) :
    ∃ c ∈ scalarBeginnings, ∃ rest, text = c :: rest := by
  cases h with
  | null => exact ⟨'n', by decide, _, rfl⟩
  | true => exact ⟨'t', by decide, _, rfl⟩
  | false => exact ⟨'f', by decide, _, rfl⟩
  | string => exact ⟨quoteMark, by decide, _, rfl⟩
  | number hn =>
    obtain ⟨c, rest, hcons, hc⟩ := hn.exists_cons
    refine ⟨c, ?_, rest, hcons⟩
    rcases hc with rfl | hc
    · decide
    · exact mem_scalarBeginnings_of_isDecimal hc

theorem Writes.begins {s : Scalar} {text : List Char} (h : s.Writes text) : Begins text := by
  obtain ⟨c, hc, rest, rfl⟩ := h.exists_cons
  exact ⟨c, (scalarBeginnings_spec c hc).1, rest, rfl⟩

end Scalar

/-! ## Readers of single values -/

/-- White space in front of a value is skipped, and nothing else is. -/
theorem skipGap_begins {gap text : List Char} (hgap : IsGap gap) (h : Begins text)
    (rest : List Char) : skipGap (gap ++ (text ++ rest)) = text ++ rest := by
  obtain ⟨c, hc, text, rfl⟩ := h
  rw [skipGap_append hgap, List.cons_append, skipGap_cons (beginnings_spec c hc).1]

/-- A reader takes a text for a value, with white space in front and whatever may stand behind. -/
structure Takes {α : Type} (read : Reader α) (text : List Char) (a : α) : Prop where
  begins : Begins text
  reads : ∀ {gap rest : List Char}, IsGap gap → Ends rest →
    read (gap ++ (text ++ rest)) = .ok (a, rest)

/-- A single value is taken where one is asked for. -/
theorem takes_readScalar {s : Scalar} {text : List Char} (h : s.Writes text) :
    Takes readScalar text s := by
  refine ⟨h.begins, fun {gap rest} hgap hrest => ?_⟩
  obtain ⟨c, hc, tail, rfl⟩ := h.exists_cons
  obtain ⟨-, hsquare, hcurly⟩ := scalarBeginnings_spec c hc
  have htake := h.take_append hrest
  rw [readScalar, skipGap_begins hgap h.begins]
  rw [List.cons_append] at htake ⊢
  split
  next heq => exact absurd (List.cons.inj heq).1 hsquare
  next heq => exact absurd (List.cons.inj heq).1 hcurly
  next => exact htake

/-- A string is taken where a string is asked for. -/
theorem takes_readString {body content : List Char} (h : Spells body content) :
    Takes readString (quoted body) content := by
  have hscalar := takes_readScalar (.string h)
  refine ⟨hscalar.begins, fun hgap hrest => ?_⟩
  rw [readString, hscalar.reads hgap hrest]
  rfl

/-- The word for a truth value. -/
def boolText (b : Bool) : List Char := if b then "true".toList else "false".toList

/-- A truth value is taken where one is asked for. -/
theorem takes_readBool (b : Bool) : Takes readBool (boolText b) b := by
  have hscalar : Takes readScalar (boolText b) (.bool b) := by
    rcases b with _ | _
    · exact takes_readScalar .false
    · exact takes_readScalar .true
  refine ⟨hscalar.begins, fun hgap hrest => ?_⟩
  rw [readBool, hscalar.reads hgap hrest]
  rfl

/-- A number without a sign is taken if it is below the limit. -/
theorem takes_readUnsigned {whole : List Char} {k limit : Nat} (h : IsNumeral whole k)
    (hk : k < limit) (hlimit : limit ≤ 2 ^ 64) : Takes (readUnsigned limit) whole k := by
  have hscalar : Takes readScalar whole (.number (.ofWhole whole)) := by
    have hwrites := Scalar.Writes.number (Number.sound_ofWhole h)
      (Number.surplus?_ofWhole h (Nat.lt_of_lt_of_le hk hlimit))
    rw [Number.text_ofWhole] at hwrites
    exact takes_readScalar hwrites
  refine ⟨hscalar.begins, fun hgap hrest => ?_⟩
  rw [readUnsigned, hscalar.reads hgap hrest]
  simp only [bind, Except.bind, Number.whole?_ofWhole h]
  exact if_pos hk

namespace Takes

variable {α β : Type} {read : Reader α} {text : List Char} {a : α}

/-- A reader that makes something else of what it reads. -/
theorem map (h : Takes read text a) (f : α → β) :
    Takes (fun t => (read t).map fun (x, rest) => (f x, rest)) text (f a) := by
  refine ⟨h.begins, fun hgap hrest => ?_⟩
  rw [h.reads hgap hrest]
  rfl

/-- A value that may be missing is there unless it is null. -/
theorem readOptional (h : Takes read text a) (hnull : text.head? ≠ some 'n') :
    Takes (readOptional read) text (some a) := by
  refine ⟨h.begins, fun {gap rest} hgap hrest => ?_⟩
  have hread := h.reads isGap_nil hrest
  rw [List.nil_append] at hread
  rw [Json.readOptional, skipGap_begins hgap h.begins]
  obtain ⟨c, -, tail, rfl⟩ := h.begins
  -- Only null begins with that letter.
  split
  next heq => exact absurd (congrArg some (List.cons.inj heq).1) hnull
  next =>
    rw [hread]
    rfl

/-- A text that is a value with white space around it is read to its end. -/
theorem readText (h : Takes read text a) {gap gap' : List Char} (hgap : IsGap gap)
    (hgap' : IsGap gap') : Json.readText read (gap ++ (text ++ gap')) = .ok a := by
  have hends : Ends gap' := fun c hc => .inl (hgap' c (List.mem_of_mem_head? hc))
  rw [Json.readText, h.reads hgap hends]
  simp only [isEmpty_skipGap hgap', if_true]

end Takes

end Rollup.Json
