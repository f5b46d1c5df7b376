/-
A text as the parts between its marks.

There is one part more than there are marks: one in front of the first mark, one
behind the last, and two marks side by side have an empty part between them. No
part has a mark in it, and the parts with the mark between them make up the text
again, so that nothing is lost and nothing is invented.
-/

set_option autoImplicit false

namespace Rollup.Text

/-- Puts a character in front of parts: a mark begins a new one, all else joins the first. -/
def addToParts (isMark : Char → Bool) (c : Char) : List (List Char) → List (List Char)
  | [] => if isMark c then [[], []] else [[c]]
  | part :: parts => if isMark c then [] :: part :: parts else (c :: part) :: parts

/-- The parts of a text between the marks in it. -/
def partsAt (isMark : Char → Bool) (text : List Char) : List (List Char) :=
  text.foldr (addToParts isMark) [[]]

/-- The parts of a text between the occurrences of one character. -/
def parts (mark : Char) (text : List Char) : List (List Char) := partsAt (· == mark) text

/-- Parts with a mark between them. -/
def joinParts (mark : Char) (parts : List (List Char)) : List Char := List.intercalate [mark] parts

@[simp] theorem partsAt_nil (isMark : Char → Bool) : partsAt isMark [] = [[]] := rfl

theorem partsAt_cons (isMark : Char → Bool) (c : Char) (text : List Char) :
    partsAt isMark (c :: text) = addToParts isMark c (partsAt isMark text) := rfl

/-- Every text has a part. -/
theorem partsAt_ne_nil (isMark : Char → Bool) (text : List Char) : partsAt isMark text ≠ [] := by
  cases text with
  | nil => simp
  | cons c text =>
    rw [partsAt_cons]
    cases partsAt isMark text <;> simp only [addToParts] <;> split <;> simp

/-- There is one part more than there are marks. -/
theorem length_partsAt (isMark : Char → Bool) (text : List Char) :
    (partsAt isMark text).length = text.countP isMark + 1 := by
  induction text with
  | nil => rfl
  | cons c text ih =>
    rw [partsAt_cons]
    match hp : partsAt isMark text with
    | [] => exact absurd hp (partsAt_ne_nil isMark text)
    | part :: parts =>
      rw [hp] at ih
      by_cases h : isMark c <;> simp_all [addToParts]

/-- No part has a mark in it. -/
theorem not_isMark_of_mem_partsAt {isMark : Char → Bool} {text part : List Char} {c : Char}
    (hp : part ∈ partsAt isMark text) (hc : c ∈ part) : isMark c = false := by
  induction text generalizing part with
  | nil => simp_all
  | cons d text ih =>
    rw [partsAt_cons] at hp
    -- There always is a first part, which the character in front may belong to.
    match hq : partsAt isMark text with
    | [] => exact absurd hq (partsAt_ne_nil isMark text)
    | first :: rest =>
      rw [hq] at hp ih
      simp only [addToParts] at hp
      split at hp
      · rcases List.mem_cons.1 hp with rfl | hp
        · simp at hc
        · exact ih hp hc
      · rcases List.mem_cons.1 hp with rfl | hp
        · rcases List.mem_cons.1 hc with rfl | hc
          · simp_all
          · exact ih (by simp) hc
        · exact ih (by simp [hp]) hc

end Rollup.Text
