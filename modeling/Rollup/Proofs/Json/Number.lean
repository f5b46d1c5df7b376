/-
Numbers are read as they are written.

A number ends where nothing more of a number follows (`Ends`), and then the longest run of digits in
each of its parts is the one that was written. A number that is wanted must not be too large for a
double, which no whole number of 64 bits is.
-/
import Rollup.Proofs.Decimal.Double
import Rollup.Proofs.Decimal.Grammar
import Rollup.Proofs.Json.Grammar
import Rollup.Proofs.Quantity

set_option autoImplicit false

namespace Rollup.Json

open Text (IsDigits IsNumeral isDecimal)

/-! ## The end of a value -/

/-- What may stand behind a value: nothing, white space, a comma or a closing bracket. -/
def Ends (rest : List Char) : Prop :=
  ∀ c, rest.head? = some c → isGap c = true ∨ c = ',' ∨ c = ']' ∨ c = '\x7d'

/-- Nothing of a number goes on there. -/
theorem Ends.head? {rest : List Char} (h : Ends rest) : ∀ c, rest.head? = some c →
    isDecimal c = false ∧ c ≠ '.' ∧ c ≠ 'e' ∧ c ≠ 'E' := by
  intro c hc
  rcases h c hc with hgap | rfl | rfl | rfl
  · simp only [isGap, Bool.or_eq_true, decide_eq_true_iff] at hgap
    obtain ((rfl | rfl) | rfl) | rfl := hgap <;> decide
  · decide
  · decide
  · decide

namespace Number

/-! ## The parts of a number -/

/-- The text of a fraction. -/
def fractionText : Option (List Char) → List Char
  | some digits => '.' :: digits
  | none => []

/-- The text of an exponent. -/
def exponentText : Option Exponent → List Char
  | some e => e.mark :: (e.sign.toList ++ e.digits)
  | none => []

/-- A number is a sign, its whole part, and what may follow. -/
theorem text_eq (n : Number) : n.text = (if n.negative then ['-'] else []) ++
    (n.whole ++ (fractionText n.fraction ++ exponentText n.exponent)) := by
  rw [text, List.append_assoc, List.append_assoc]
  rcases n.fraction with _ | _ <;> rcases n.exponent with _ | _ <;> rfl

section

variable {rest : List Char}

/-- The whole part is read up to what is no digit. -/
theorem takeWhole_append {whole : List Char} {k : Nat} (a : Attention) (h : IsNumeral whole k)
    (hrest : ∀ c, rest.head? = some c → isDecimal c = false) :
    takeWhole a (whole ++ rest) = .ok (whole, rest) := by
  obtain ⟨c, digits, rfl⟩ := List.exists_cons_of_ne_nil h.ne_nil
  rw [List.cons_append]
  by_cases hc : c = '0'
  · -- A zero in front is all of the numeral.
    subst hc
    obtain rfl : digits = [] := (List.cons.inj (h.head rfl)).2
    rw [List.nil_append]
    cases rest with
    | nil => rfl
    | cons d rest => rw [takeWhole, hrest d rfl]; rfl
  · have hdigits : IsDigits digits := fun d hd => h.digits d (List.mem_cons_of_mem c hd)
    obtain ⟨htake, hdrop⟩ := Decimal.takeWhile_digits hdigits hrest
    rw [takeWhole, if_pos (h.digits c List.mem_cons_self), htake, hdrop]
    exact hc

/-- So is the fraction behind a point, if there is one. -/
theorem takeFraction_append {fraction : Option (List Char)} (a : Attention)
    (h : ∀ digits ∈ fraction, digits ≠ [] ∧ IsDigits digits)
    (hrest : ∀ c, rest.head? = some c → isDecimal c = false ∧ c ≠ '.') :
    takeFraction a (fractionText fraction ++ rest) = .ok (fraction, rest) := by
  rcases fraction with _ | digits
  · cases rest with
    | nil => rfl
    | cons c rest =>
      rw [fractionText, List.nil_append, takeFraction]
      -- Without a point there is no fraction, whatever follows.
      exact fun _ h => (hrest c rfl).2 (List.cons.inj h).1
  · obtain ⟨hne, hdigits⟩ := h digits rfl
    obtain ⟨htake, hdrop⟩ := Decimal.takeWhile_digits hdigits fun c hc => (hrest c hc).1
    rw [fractionText, List.cons_append, takeFraction, htake, hdrop]
    obtain ⟨d, digits, rfl⟩ := List.exists_cons_of_ne_nil hne
    rfl

/-- So is the exponent, if there is one. -/
theorem takeExponent_append {exponent : Option Exponent} (a : Attention)
    (h : ∀ e ∈ exponent, e.Sound)
    (hrest : ∀ c, rest.head? = some c → isDecimal c = false ∧ c ≠ 'e' ∧ c ≠ 'E') :
    takeExponent a (exponentText exponent ++ rest) = .ok (exponent, rest) := by
  rcases exponent with _ | ⟨mark, sign, digits⟩
  · cases rest with
    | nil => rfl
    | cons c rest =>
      have hc : ¬ (c = 'e' ∨ c = 'E') := not_or.mpr (hrest c rfl).2
      simp only [exponentText, List.nil_append, takeExponent, hc, if_false]
  · obtain ⟨hmark, hsign, hne, hdigits⟩ := h _ rfl
    obtain ⟨htake, hdrop⟩ := Decimal.takeWhile_digits hdigits fun c hc => (hrest c hc).1
    obtain ⟨d, digits, rfl⟩ := List.exists_cons_of_ne_nil hne
    have hd : isDecimal d = true := hdigits d List.mem_cons_self
    dsimp only at hmark hsign htake hdrop
    rw [List.cons_append] at htake hdrop
    rw [exponentText, List.cons_append, List.append_assoc, takeExponent.eq_def]
    simp only [hmark, if_true]
    rcases sign with _ | c
    · -- No digit is a sign.
      have hplus : d ≠ '+' := fun h => absurd (h ▸ hd) (by decide)
      have hminus : d ≠ '-' := fun h => absurd (h ▸ hd) (by decide)
      simp [hplus, hminus, hd, htake, hdrop]
    · rcases hsign c rfl with rfl | rfl
      · simp [hd, htake, hdrop]
      · simp [hd, htake, hdrop]

/-- Takes what stands behind the sign of a number. -/
def takeUnsigned (a : Attention) (negative : Bool) : Reader Number := fun body => do
  let (whole, rest) ← takeWhole a body
  let (fraction, rest) ← takeFraction a rest
  let (exponent, rest) ← takeExponent a rest
  let number : Number := ⟨negative, whole, fraction, exponent⟩
  match a, number.surplus? with
  | .wanted, some surplus => malformed (surplus ++ rest)
  | _, _ => .ok (number, rest)

/-- Without a sign a number is read as an unsigned one. -/
theorem take_of_head?_ne {text : List Char} (h : text.head? ≠ some '-') (a : Attention) :
    take a text = takeUnsigned a false text := by
  unfold take
  split
  next negative body heq =>
    split at heq
    next => exact absurd rfl h
    next =>
      cases heq
      rfl

/-- **A number is read as it is written**, unless it is wanted and too large for a double. -/
theorem take_text {n : Number} (h : n.Sound) {a : Attention}
    (ha : a = .wanted → n.surplus? = none) (hrest : Ends rest) :
    take a (n.text ++ rest) = .ok (n, rest) := by
  have hends := hrest.head?
  -- Neither an exponent nor a fraction begins with a digit.
  have hexponent : ∀ c, (exponentText n.exponent ++ rest).head? = some c →
      isDecimal c = false ∧ c ≠ '.' := by
    intro c hc
    rcases he : n.exponent with _ | e
    · rw [he] at hc
      exact ⟨(hends c hc).1, (hends c hc).2.1⟩
    · rw [he] at hc
      obtain rfl : e.mark = c := Option.some.inj hc
      rcases (h.exponent e he).mark with hmark | hmark <;> rw [hmark] <;> decide
  have hfraction : ∀ c, (fractionText n.fraction ++ (exponentText n.exponent ++ rest)).head? =
      some c → isDecimal c = false := by
    intro c hc
    rcases hf : n.fraction with _ | digits
    · rw [hf] at hc
      exact (hexponent c hc).1
    · rw [hf] at hc
      obtain rfl : '.' = c := Option.some.inj hc
      rfl
  obtain ⟨k, hwhole⟩ := h.whole
  have hunsigned (negative : Bool) (hnegative : n.negative = negative) :
      takeUnsigned a negative (n.whole ++ (fractionText n.fraction ++
        (exponentText n.exponent ++ rest))) = .ok (n, rest) := by
    subst hnegative
    simp only [takeUnsigned, takeWhole_append a hwhole hfraction,
      takeFraction_append a h.fraction hexponent,
      takeExponent_append a h.exponent fun c hc => ⟨(hends c hc).1, (hends c hc).2.2⟩,
      bind, Except.bind]
    cases a with
    | wanted => rw [ha rfl]
    | skipped => rfl
  rw [text_eq, List.append_assoc, List.append_assoc, List.append_assoc]
  rcases hnegative : n.negative with _ | _
  · have hhead : n.whole.head? ≠ some '-' := Decimal.head?_ne_of_isDigits hwhole.digits rfl
    rw [if_neg Bool.false_ne_true, List.nil_append, take_of_head?_ne, hunsigned _ hnegative]
    rwa [List.head?_append_of_ne_nil _ hwhole.ne_nil]
  · exact hunsigned _ hnegative

end

/-! ## Whole numbers -/

/-- A whole number without a sign. -/
def ofWhole (whole : List Char) : Number := ⟨false, whole, none, none⟩

theorem sound_ofWhole {whole : List Char} {k : Nat} (h : IsNumeral whole k) :
    (ofWhole whole).Sound := ⟨⟨k, h⟩, nofun, nofun⟩

theorem text_ofWhole (whole : List Char) : (ofWhole whole).text = whole := by
  rw [text_eq, ofWhole]
  exact List.append_nil whole

/-- It is whole. -/
theorem whole?_ofWhole {whole : List Char} {k : Nat} (h : IsNumeral whole k) :
    (ofWhole whole).whole? = some (k : Int) := by
  have hread : Text.readDecimal? whole = some k := by
    have hempty : whole.isEmpty = false := List.isEmpty_eq_false_iff.mpr h.ne_nil
    have hall : whole.all isDecimal = true := List.all_eq_true.mpr h.digits
    rw [Text.readDecimal?, hempty, hall, Text.value_eq_ofDigits]
    exact congrArg some h.value
  simp only [whole?, ofWhole, hread, Bool.false_eq_true, if_false]

/-- A significand that fits into 64 bits is collected to its end. -/
theorem collect_of_lt {digits : List Char} {v : Nat}
    (h : (digits.map fun c => c.toNat - 0x30).foldl (fun n d => 10 * n + d) v < 2 ^ 64) :
    collect v digits = ((digits.map fun c => c.toNat - 0x30).foldl (fun n d => 10 * n + d) v, []) := by
  induction digits generalizing v with
  | nil => rfl
  | cons c digits ih =>
    rw [List.map_cons, List.foldl_cons] at h ⊢
    have hle := Quantity.le_foldl (by decide : 0 < 10) (digits.map fun c => c.toNat - 0x30)
      (10 * v + (c.toNat - 0x30))
    rw [collect, if_pos (Nat.lt_of_le_of_lt hle h), ih h]

/-- It is not too large, if it fits into 64 bits. -/
theorem surplus?_ofWhole {whole : List Char} {k : Nat} (h : IsNumeral whole k) (hk : k < 2 ^ 64) :
    (ofWhole whole).surplus? = none := by
  have hvalue : (whole.map fun c => c.toNat - 0x30).foldl (fun n d => 10 * n + d) 0 = k := h.value
  have hcollect : collect 0 whole = (k, []) := by
    rw [collect_of_lt (by rw [hvalue]; exact hk), hvalue]
  have hsignificand : (ofWhole whole).significand = (k, 0) := by
    rw [significand, ofWhole]
    dsimp only
    rw [hcollect]
    rfl
  -- A number of 64 bits is far below the greatest double.
  have hfits : overflows k 0 = false := by
    unfold overflows
    split
    · rfl
    · exact decide_eq_false (Decimal.times_one_ne_infinite hk)
  rw [surplus?, hsignificand]
  dsimp only [ofWhole]
  rw [hfits]
  rfl

end Number

end Rollup.Json
