/-
Paths of web addresses.

A path is a list of segments between slashes, and backslashes count as such. A
segment that is one point stands for the place where it is, and one of two points
for the place above; a point may also be written as its escape. Neither is left in
a path, and neither leads out of it. A letter with a colon or a bar names a drive,
above which nothing leads.
-/
import Rollup.Text.Parts
import Rollup.Url.Escape

set_option autoImplicit false

namespace Rollup.Url

/-- Whether a character is one of the slashes. -/
def isSlash (c : Char) : Bool := c = '/' || c = '\\'

namespace Path

/-- The segments for the place itself. -/
def here : List (List Char) := [".".toList, "%2e".toList, "%2E".toList]

/-- The segments for the place above. -/
def above : List (List Char) := here.flatMap fun a => here.map (a ++ ·)

/-- Whether a segment names a drive. -/
def isDrive : List Char → Bool
  | [letter, mark] => letter.isAlpha && (mark = ':' || mark = '|')
  | _ => false

/-- The place above one, which is told by its segments, the last one first. -/
def leave : List (List Char) → List (List Char)
  | [] => []
  | segment :: rest => if isDrive segment then segment :: rest else rest

/-- The place that a segment leads to. -/
def enter (place : List (List Char)) (segment : List Char) : List (List Char) :=
  if segment ∈ above then leave place else if segment ∈ here then place else segment :: place

/-- A path in its normal form, from what is written behind its first slash. -/
def normal (written : List Char) : List Char :=
  let segments := (Text.partsAt isSlash written).map (escape isEscapedInPath)
  let last := segments.getLast?.getD []
  let isPlace := last ∈ here || last ∈ above
  let place := (if isPlace then segments else segments.dropLast).foldl enter []
  '/' :: place.reverse.flatMap (· ++ ['/']) ++ if isPlace then [] else last

end Path

end Rollup.Url
