/-
Which texts are read as double precision numbers.

The grammar has an optional sign in front of a word or of a decimal. A decimal has digits with at
most one point among them, at least one digit, and an optional exponent. `IsLiteral` states it by
how a text is put together, and `isSome_read?_iff` says that these are the texts that are read. The
reader takes a text apart from the left, so each part is the longest one there; it does not matter,
because nothing of what may follow a run of digits is a digit.
-/
import Rollup.Decimal.Reading
import Rollup.Proofs.Text.Numeral

set_option autoImplicit false

namespace Rollup.Decimal

open Text (IsDigits isDecimal)

/-! ## The grammar -/

/-- An optional sign. -/
def IsSign (s : List Char) : Prop := s = [] ∨ s = ['+'] ∨ s = ['-']

/-- An optional exponent. -/
inductive IsExponent : List Char → Prop where
  | absent : IsExponent []
  | marked {mark : Char} {sign digits : List Char} : mark = 'e' ∨ mark = 'E' → IsSign sign →
    digits ≠ [] → IsDigits digits → IsExponent (mark :: (sign ++ digits))

/-- A decimal without a sign. -/
inductive IsDecimal : List Char → Prop where
  | whole {digits exponent : List Char} : digits ≠ [] → IsDigits digits → IsExponent exponent →
    IsDecimal (digits ++ exponent)
  /-- A point with digits in front of it or behind it. -/
  | pointed {whole fraction exponent : List Char} : whole ≠ [] ∨ fraction ≠ [] →
    IsDigits whole → IsDigits fraction → IsExponent exponent →
    IsDecimal (whole ++ '.' :: (fraction ++ exponent))

/-- The words for what is no finite number, in lower case. -/
def words : List (List Char) := ["inf".toList, "infinity".toList, "nan".toList]

/-- A number as it may be written. -/
inductive IsLiteral : List Char → Prop where
  | decimal {sign body : List Char} : IsSign sign → IsDecimal body → IsLiteral (sign ++ body)
  | word {sign body : List Char} : IsSign sign → body.map Char.toLower ∈ words →
    IsLiteral (sign ++ body)

/-! ## Signs -/

theorem exists_sign (text : List Char) : ∃ sign, IsSign sign ∧ text = sign ++ (splitSign text).2 := by
  unfold splitSign
  split
  · exact ⟨['-'], .inr (.inr rfl), rfl⟩
  · exact ⟨['+'], .inr (.inl rfl), rfl⟩
  · exact ⟨[], .inl rfl, rfl⟩

/-- A sign is split off what does not begin with another one. -/
theorem splitSign_append {sign body : List Char} (hsign : IsSign sign)
    (hplus : body.head? ≠ some '+') (hminus : body.head? ≠ some '-') :
    (splitSign (sign ++ body)).2 = body := by
  rcases hsign with rfl | rfl | rfl
  · rw [List.nil_append]
    unfold splitSign
    split
    · exact absurd rfl hminus
    · exact absurd rfl hplus
    · rfl
  · rfl
  · rfl

theorem head?_ne_of_isDigits {s : List Char} {c : Char} (h : IsDigits s)
    (hc : isDecimal c = false) : s.head? ≠ some c := by
  intro hhead
  have hmem := h c (List.mem_of_head? hhead)
  rw [hc] at hmem
  cases hmem

/-! ## Runs of digits -/

/-- What the reader takes for digits is the whole run of them. -/
theorem takeWhile_digits {digits rest : List Char} (h : IsDigits digits)
    (hrest : ∀ c, rest.head? = some c → isDecimal c = false) :
    (digits ++ rest).takeWhile isDecimal = digits ∧
      (digits ++ rest).dropWhile isDecimal = rest := by
  rw [List.takeWhile_append_of_pos h, List.dropWhile_append_of_pos h]
  cases rest with
  | nil => exact ⟨List.append_nil digits, rfl⟩
  | cons c rest =>
    have hc : ¬ isDecimal c = true := by
      rw [hrest c rfl]
      exact Bool.false_ne_true
    rw [List.takeWhile_cons_of_neg hc, List.dropWhile_cons_of_neg hc]
    exact ⟨List.append_nil digits, rfl⟩

theorem isDigits_takeWhile (s : List Char) : IsDigits (s.takeWhile isDecimal) :=
  List.all_eq_true.mp List.all_takeWhile

theorem IsExponent.head?_ne {s : List Char} (h : IsExponent s) :
    ∀ c, s.head? = some c → isDecimal c = false ∧ c ≠ '.' := by
  intro c hc
  cases h with
  | absent => cases hc
  | marked hmark =>
    rw [List.head?_cons, Option.some.injEq] at hc
    subst hc
    rcases hmark with rfl | rfl
    · exact ⟨rfl, by decide⟩
    · exact ⟨rfl, by decide⟩

/-! ## What is read -/

/-- A mark is read along with the digits behind it and behind their sign. -/
theorem isSome_readExponent?_cons {mark : Char} {rest : List Char} :
    (readExponent? (mark :: rest)).isSome = true ↔
      (mark = 'e' ∨ mark = 'E') ∧ (splitSign rest).2 ≠ [] ∧ IsDigits (splitSign rest).2 := by
  -- The reader tests for what is wrong with the digits.
  have hguard : ((splitSign rest).2.isEmpty || !(splitSign rest).2.all isDecimal) = true ↔
      ¬ ((splitSign rest).2 ≠ [] ∧ IsDigits (splitSign rest).2) := by
    rw [Bool.or_eq_true, List.isEmpty_iff, Bool.not_eq_true', ← Bool.not_eq_true, List.all_eq_true,
      not_and_or, not_not]
    rfl
  rw [readExponent?]
  by_cases hmark : mark = 'e' ∨ mark = 'E'
  · rw [if_pos hmark, and_iff_right hmark]
    dsimp only
    by_cases hdigits : (splitSign rest).2 ≠ [] ∧ IsDigits (splitSign rest).2
    · rw [if_neg (mt hguard.mp (not_not.mpr hdigits))]
      exact iff_of_true rfl hdigits
    · rw [if_pos (hguard.mpr hdigits)]
      exact iff_of_false Bool.false_ne_true hdigits
  · rw [if_neg hmark]
    exact iff_of_false Bool.false_ne_true (fun h => hmark h.1)

theorem isSome_readExponent?_iff {s : List Char} :
    (readExponent? s).isSome = true ↔ IsExponent s := by
  constructor
  · intro h
    match s with
    | [] => exact .absent
    | mark :: rest =>
      obtain ⟨hmark, hne, hdigits⟩ := isSome_readExponent?_cons.mp h
      obtain ⟨sign, hsign, hrest⟩ := exists_sign rest
      rw [hrest]
      exact .marked hmark hsign hne hdigits
  · intro h
    cases h with
    | absent => rfl
    | @marked mark sign digits hmark hsign hne hdigits =>
      -- No digit is taken for a sign.
      have hsplit : (splitSign (sign ++ digits)).2 = digits :=
        splitSign_append hsign (head?_ne_of_isDigits hdigits rfl) (head?_ne_of_isDigits hdigits rfl)
      rw [isSome_readExponent?_cons, hsplit]
      exact ⟨hmark, hne, hdigits⟩

theorem isSome_readUnsigned?_iff {s : List Char} :
    (readUnsigned? s).isSome = true ↔ IsDecimal s := by
  constructor
  · intro h
    have hs : s.takeWhile isDecimal ++ s.dropWhile isDecimal = s := List.takeWhile_append_dropWhile
    have hwhole := isDigits_takeWhile s
    unfold readUnsigned? at h
    dsimp only at h
    -- Behind the run of digits in front stands a point, or the text has none.
    split at h
    next rest hdrop =>
      split at h
      · cases h
      next hdigits =>
        have hrest : rest.takeWhile isDecimal ++ rest.dropWhile isDecimal = rest :=
          List.takeWhile_append_dropWhile
        rw [Option.isSome_map] at h
        -- The text is cut up as the reader did it, and the pieces are put together again.
        rw [← hs, hdrop, ← hrest]
        refine .pointed ?_ hwhole (isDigits_takeWhile rest) (isSome_readExponent?_iff.mp h)
        by_contra hnone
        rw [not_or, not_not, not_not] at hnone
        exact hdigits (by rw [hnone.1, hnone.2]; rfl)
    next hdrop =>
      split at h
      · cases h
      next hdigits =>
        rw [Option.isSome_map] at h
        rw [← hs]
        refine .whole ?_ hwhole (isSome_readExponent?_iff.mp h)
        intro hnil
        exact hdigits (by rw [hnil]; rfl)
  · intro h
    cases h with
    | @whole digits exponent hne hdigits hexponent =>
      obtain ⟨htake, hdrop⟩ := takeWhile_digits hdigits fun c hc => (hexponent.head?_ne c hc).1
      have hempty : ¬ digits.isEmpty = true := by
        rw [List.isEmpty_iff]
        exact hne
      unfold readUnsigned?
      rw [htake, hdrop]
      dsimp only
      split
      next rest =>
        -- An exponent does not begin with a point.
        exact absurd rfl (hexponent.head?_ne '.' rfl).2
      next =>
        rw [if_neg hempty, Option.isSome_map]
        exact isSome_readExponent?_iff.mpr hexponent
    | @pointed whole fraction exponent hne hwhole hfraction hexponent =>
      obtain ⟨htake, hdrop⟩ := @takeWhile_digits _ ('.' :: (fraction ++ exponent)) hwhole
        fun c hc => by
          rw [List.head?_cons, Option.some.injEq] at hc
          subst hc
          rfl
      obtain ⟨htake', hdrop'⟩ := takeWhile_digits hfraction fun c hc => (hexponent.head?_ne c hc).1
      have hempty : ¬ (whole.isEmpty && fraction.isEmpty) = true := by
        rw [Bool.and_eq_true, List.isEmpty_iff, List.isEmpty_iff]
        rintro ⟨hw, hf⟩
        exact hne.elim (absurd hw) (absurd hf)
      unfold readUnsigned?
      rw [htake, hdrop]
      change (if (whole.isEmpty && ((fraction ++ exponent).takeWhile isDecimal).isEmpty) = true then none
        else _).isSome = true
      rw [htake', hdrop', if_neg hempty, Option.isSome_map]
      exact isSome_readExponent?_iff.mpr hexponent

/-- A decimal begins with a digit or a point. -/
theorem IsDecimal.head? {s : List Char} (h : IsDecimal s) :
    ∃ c, s.head? = some c ∧ (isDecimal c = true ∨ c = '.') := by
  cases h with
  | @whole digits exponent hne hdigits _ =>
    obtain ⟨c, rest, rfl⟩ := List.exists_cons_of_ne_nil hne
    exact ⟨c, rfl, .inl (hdigits c List.mem_cons_self)⟩
  | @pointed whole fraction exponent _ hwhole _ _ =>
    cases whole with
    | nil => exact ⟨'.', rfl, .inr rfl⟩
    | cons c rest => exact ⟨c, rfl, .inl (hwhole c List.mem_cons_self)⟩

theorem word_iff {body : List Char} :
    body.map Char.toLower ∈ words ↔
      String.ofList (body.map Char.toLower) = "inf" ∨
      String.ofList (body.map Char.toLower) = "infinity" ∨
      String.ofList (body.map Char.toLower) = "nan" := by
  have hword : ∀ w : String, String.ofList (body.map Char.toLower) = w ↔
      body.map Char.toLower = w.toList := by
    intro w
    rw [← String.toList_inj, String.toList_ofList]
  rw [hword, hword, hword, words, List.mem_cons, List.mem_cons, List.mem_singleton]

/-- **The texts that are read are those of the grammar.** -/
theorem isSome_read?_iff {text : List Char} : (read? text).isSome = true ↔ IsLiteral text := by
  have hread : ∀ {body}, (splitSign text).2 = body →
      ((read? text).isSome = true ↔ body.map Char.toLower ∈ words ∨ IsDecimal body) := by
    rintro _ rfl
    rw [word_iff, ← isSome_readUnsigned?_iff]
    unfold read?
    dsimp only
    split
    next hinf => exact iff_of_true rfl (.inl (hinf.imp_right .inl))
    next hinf =>
      split
      next hnan => exact iff_of_true rfl (.inl (.inr (.inr hnan)))
      next hnan =>
        rw [Option.isSome_map]
        rw [not_or] at hinf
        simp only [hinf.1, hinf.2, hnan, false_or]
  constructor
  · intro h
    obtain ⟨sign, hsign, htext⟩ := exists_sign text
    rw [htext]
    rcases (hread rfl).mp h with hword | hdecimal
    · exact .word hsign hword
    · exact .decimal hsign hdecimal
  · intro h
    cases h with
    | @decimal sign body hsign hbody =>
      obtain ⟨c, hhead, hc⟩ := hbody.head?
      refine (hread (splitSign_append hsign ?_ ?_)).mpr (.inr hbody)
      · rintro hplus
        rw [hhead, Option.some.injEq] at hplus
        subst hplus
        revert hc
        decide
      · rintro hminus
        rw [hhead, Option.some.injEq] at hminus
        subst hminus
        revert hc
        decide
    | @word sign body hsign hbody =>
      -- The words begin with other letters than signs do.
      have hne : ∀ c : Char, c.toLower ∉ ['i', 'n'] → body.head? ≠ some c := by
        intro c hc hhead
        cases body with
        | nil => cases hhead
        | cons d rest =>
          rw [List.head?_cons, Option.some.injEq] at hhead
          subst hhead
          apply hc
          rcases List.mem_cons.mp hbody with h | h
          · rw [(List.cons.inj h).1]
            decide
          · rcases List.mem_cons.mp h with h | h
            · rw [(List.cons.inj h).1]
              decide
            · rw [(List.cons.inj (List.mem_singleton.mp h)).1]
              decide
      exact (hread (splitSign_append hsign (hne '+' (by decide)) (hne '-' (by decide)))).mpr
        (.inl hbody)

end Rollup.Decimal
