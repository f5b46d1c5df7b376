/-
How a text falls into its parts.

A text up to the first mark is its first part, and the rest is in parts by itself. So a text that is
put together from lines with a mark behind each falls into these lines again exactly if none of them
has a mark in it (`length_parts_joinLines_iff`).
-/
import Rollup.Text.Parts

set_option autoImplicit false

namespace Rollup.Text

variable {mark : Char} {text rest last : List Char} {lines : List (List Char)}

theorem parts_mark_cons (mark : Char) (text : List Char) :
    parts mark (mark :: text) = [] :: parts mark text := by
  obtain ⟨part, others, hparts⟩ := List.exists_cons_of_ne_nil (partsAt_ne_nil (· == mark) text)
  rw [parts, partsAt_cons, parts, hparts]
  simp [addToParts]

/-- Any other character belongs to the part behind it. -/
theorem parts_cons_of_ne {c : Char} {part : List Char} {others : List (List Char)} (hc : c ≠ mark)
    (h : parts mark text = part :: others) : parts mark (c :: text) = (c :: part) :: others := by
  rw [parts] at h
  rw [parts, partsAt_cons, h]
  simp [addToParts, hc]

theorem parts_of_not_mem (h : mark ∉ text) : parts mark text = [text] := by
  induction text with
  | nil => rfl
  | cons c text ih =>
    rw [List.mem_cons, not_or] at h
    exact parts_cons_of_ne (Ne.symm h.1) (ih h.2)

/-- A text up to a mark is the first part. -/
theorem parts_append_mark (h : mark ∉ text) :
    parts mark (text ++ mark :: rest) = text :: parts mark rest := by
  induction text with
  | nil => exact parts_mark_cons mark rest
  | cons c text ih =>
    rw [List.mem_cons, not_or] at h
    exact parts_cons_of_ne (Ne.symm h.1) (ih h.2)

/-- Lines with a mark behind each, and a last one without. -/
def joinLines (mark : Char) (lines : List (List Char)) (last : List Char) : List Char :=
  lines.flatMap (· ++ [mark]) ++ last

theorem joinLines_cons (line : List Char) :
    joinLines mark (line :: lines) last = line ++ mark :: joinLines mark lines last := by
  rw [joinLines, joinLines, List.flatMap_cons, List.append_assoc, List.append_assoc,
    List.singleton_append]

theorem parts_joinLines (hlines : ∀ line ∈ lines, mark ∉ line) (hlast : mark ∉ last) :
    parts mark (joinLines mark lines last) = lines ++ [last] := by
  induction lines with
  | nil => exact parts_of_not_mem hlast
  | cons line lines ih =>
    have hline := hlines line List.mem_cons_self
    have hrest := ih fun l hl => hlines l (List.mem_cons_of_mem _ hl)
    rw [joinLines_cons, parts_append_mark hline, hrest, List.cons_append]

theorem count_joinLines : (joinLines mark lines last).count mark =
    lines.length + (lines.flatten.count mark + last.count mark) := by
  induction lines with
  | nil => simp [joinLines]
  | cons line lines ih =>
    rw [joinLines_cons, List.count_append, List.count_cons_self, ih, List.length_cons,
      List.flatten_cons, List.count_append]
    omega

/-- A mark in a line is one part more. -/
theorem length_parts_joinLines_iff :
    (parts mark (joinLines mark lines last)).length = lines.length + 1 ↔
      (∀ line ∈ lines, mark ∉ line) ∧ mark ∉ last := by
  have hcount : (parts mark (joinLines mark lines last)).length =
      (joinLines mark lines last).count mark + 1 := length_partsAt _ _
  have hflatten : lines.flatten.count mark = 0 ↔ ∀ line ∈ lines, mark ∉ line := by
    rw [List.count_eq_zero, List.mem_flatten]
    simp only [not_exists, not_and]
  rw [hcount, count_joinLines, ← hflatten, ← List.count_eq_zero]
  omega

end Rollup.Text
