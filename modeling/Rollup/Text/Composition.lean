/-
Composed text.

The same text can be spelled with composites and without them. Its composed form
is the one in which every composite stands that can: all characters are taken
apart, the marks behind a base are brought into the order of their classes, where
those of one class keep theirs, and then a base takes in every mark that no mark
of the same class stands in front of. This is the normal form C of Unicode for text
without the few characters that are only ever taken apart and never put together.
-/
import Rollup.Text.CombiningClass
import Rollup.Text.Composite

set_option autoImplicit false

namespace Rollup.Text

/-! ## Taken apart and in order -/

/-- A text with the marks behind each base in the order of their classes. -/
def ordered (text : List Char) : List Char :=
  (text.splitBy fun _ c => combiningClass c ≠ 0).flatMap fun cluster =>
    cluster.mergeSort fun c d => combiningClass c ≤ combiningClass d

/-- A text with its characters taken apart, and its marks in order. -/
def decomposed (text : List Char) : List Char := ordered (text.flatMap constituents)

/-! ## Put together -/

/-- A text in the middle of being put together. -/
structure Composing where
  /-- What nothing can change any more, the last character first. -/
  done : List Char
  /-- The base that takes in marks. -/
  base : Option Char
  /-- The marks that it has not taken in, the last one first. -/
  marks : List Char

namespace Composing

/-- Takes the next character. -/
def push (s : Composing) (c : Char) : Composing :=
  match s.base with
  | none => if combiningClass c = 0 then ⟨s.done, some c, []⟩ else ⟨c :: s.done, none, []⟩
  | some base =>
    -- A mark of the same class, or of a higher one, stands between the base and this one.
    let isFree := s.marks.head?.all fun m => combiningClass m < combiningClass c
    match if isFree then unite? base c else none with
    | some whole => ⟨s.done, some whole, s.marks⟩
    | none =>
      if combiningClass c = 0 then ⟨s.marks ++ base :: s.done, some c, []⟩
      else ⟨s.done, some base, c :: s.marks⟩

/-- What has been put together. -/
def text (s : Composing) : List Char := (s.marks ++ s.base.toList ++ s.done).reverse

end Composing

/-- The composed form of a text. -/
def composed (text : List Char) : List Char :=
  if text.all (·.toNat < 0xC0) then text
  else ((decomposed text).foldl Composing.push ⟨[], none, []⟩).text

end Rollup.Text
