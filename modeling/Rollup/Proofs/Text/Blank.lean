/-
What is left of a text when the blanks around it are cut off.

`trim` finds the one text without blanks at its ends that the given text is with padding
around it (`trim_eq_iff`), so that padding never decides how a text is read.
-/
import Mathlib.Data.List.DropRight
import Rollup.Text.Blank

set_option autoImplicit false

namespace Rollup.Text

/-- The text neither begins nor ends with a blank. -/
def IsTrimmed (t : List Char) : Prop :=
  (∀ c ∈ t.head?, isBlank c = false) ∧ (∀ c ∈ t.getLast?, isBlank c = false)

/-- `s` is `t` with blanks around it, or with none. -/
def Pads (s t : List Char) : Prop :=
  ∃ front back, isAllBlank front ∧ isAllBlank back ∧ s = front ++ (t ++ back)

theorem pads_self (s : List Char) : Pads s s := ⟨[], [], rfl, rfl, (List.append_nil s).symm⟩

theorem mem_of_isAllBlank {s : List Char} (h : isAllBlank s) : ∀ c ∈ s, isBlank c :=
  List.all_eq_true.mp h

/-! ## One end -/

/-- A text that begins with no blank is left alone. -/
theorem trimFront_eq_self {t : List Char} (h : ∀ c ∈ t.head?, isBlank c = false) :
    trimFront t = t := by
  cases t with
  | nil => rfl
  | cons c t =>
    have hc : isBlank c = false := h c rfl
    rw [trimFront, List.dropWhile_cons, hc, if_neg Bool.false_ne_true]

/-- Blanks in front are dropped. -/
theorem trimFront_append {front : List Char} (h : isAllBlank front) (t : List Char) :
    trimFront (front ++ t) = trimFront t :=
  List.dropWhile_append_of_pos (mem_of_isAllBlank h)

/-- What is left begins with no blank. -/
theorem head?_trimFront (s : List Char) : ∀ c ∈ (trimFront s).head?, isBlank c = false := by
  intro c hc
  have h := List.head?_dropWhile_not isBlank s
  rw [trimFront] at hc
  rw [Option.mem_def.mp hc] at h
  simpa using h

/-- The back of a text is the front of the text read backwards. -/
theorem trimBack_eq (s : List Char) : trimBack s = (trimFront s.reverse).reverse := rfl

/-- A text that ends with no blank is left alone. -/
theorem trimBack_eq_self {t : List Char} (h : ∀ c ∈ t.getLast?, isBlank c = false) :
    trimBack t = t := by
  rw [trimBack_eq, trimFront_eq_self, List.reverse_reverse]
  rwa [List.head?_reverse]

/-- Blanks behind are dropped. -/
theorem trimBack_append {back : List Char} (h : isAllBlank back) (t : List Char) :
    trimBack (t ++ back) = trimBack t := by
  rw [trimBack_eq, List.reverse_append, trimFront_append, ← trimBack_eq]
  rwa [isAllBlank, List.all_reverse]

/-! ## Both ends -/

/-- A text is what is left of it, with blanks around it. -/
theorem pads_trim (s : List Char) : Pads s (trim s) := by
  refine ⟨s.takeWhile isBlank, (trimFront s).rtakeWhile isBlank, List.all_takeWhile, ?_, ?_⟩
  · rw [isAllBlank, List.all_eq_true]
    exact fun c hc => List.mem_rtakeWhile_imp hc
  · have hback : trim s ++ (trimFront s).rtakeWhile isBlank = trimFront s :=
      List.rdropWhile_append_rtakeWhile
    rw [hback, takeWhile_append_trimFront]

/-- What is left has no blanks around it. -/
theorem isTrimmed_trim (s : List Char) : IsTrimmed (trim s) := by
  constructor
  · intro c hc
    -- What is left begins as the text did before its back was cut off.
    obtain ⟨rest, hrest⟩ : trim s <+: trimFront s := List.rdropWhile_prefix isBlank _
    apply head?_trimFront s c
    rw [← hrest, List.head?_append, Option.mem_def.mp hc]
    rfl
  · intro c hc
    rw [trim, trimBack_eq, List.getLast?_reverse] at hc
    exact head?_trimFront _ c hc

/-- A text without blanks around it is what is left if there are some. -/
theorem trim_of_pads {s t : List Char} (hpads : Pads s t) (ht : IsTrimmed t) : trim s = t := by
  obtain ⟨front, back, hfront, hback, rfl⟩ := hpads
  rw [trim, trimFront_append hfront]
  cases t with
  | nil =>
    -- Nothing but blanks: all of them go with the front.
    have hnil : trimFront back = [] := List.dropWhile_eq_nil_iff.mpr (mem_of_isAllBlank hback)
    rw [List.nil_append, hnil]
    rfl
  | cons c t =>
    have hkept : trimFront (c :: t ++ back) = c :: t ++ back := trimFront_eq_self ht.1
    rw [hkept, trimBack_append hback, trimBack_eq_self ht.2]

/-- **Trimming undoes padding**, and does nothing else. -/
theorem trim_eq_iff {s t : List Char} : trim s = t ↔ Pads s t ∧ IsTrimmed t := by
  constructor
  · rintro rfl
    exact ⟨pads_trim s, isTrimmed_trim s⟩
  · exact fun ⟨hpads, ht⟩ => trim_of_pads hpads ht

/-- Nothing is left of blank texts, and of no others. -/
theorem trim_eq_nil_iff {s : List Char} : trim s = [] ↔ isAllBlank s := by
  rw [trim_eq_iff]
  constructor
  · rintro ⟨⟨front, back, hfront, hback, rfl⟩, -⟩
    rw [isAllBlank, List.nil_append, List.all_append, Bool.and_eq_true]
    exact ⟨hfront, hback⟩
  · intro h
    exact ⟨⟨s, [], h, rfl, (List.append_nil s).symm⟩, nofun, nofun⟩

/-- A text without any blank is trimmed. -/
theorem isTrimmed_of_forall {t : List Char} (h : ∀ c ∈ t, isBlank c = false) : IsTrimmed t :=
  ⟨fun c hc => h c (List.mem_of_mem_head? hc), fun c hc => h c (List.mem_of_mem_getLast? hc)⟩

end Rollup.Text
