/-
Names of the net, and how they are spelled in ASCII.

A name is brought into one form and then taken apart into labels. A label with
characters behind ASCII is spelled as `xn--` with its Punycode. A label may be
spelled so already, and then what it spells is held to the same rules: it has to
be in the one form, must not begin with a mark, and joins letters only where it
matters; all labels together must be written in an order that can be told; and
there are characters of ASCII that no name has.
-/
import Rollup.Url.Direction
import Rollup.Url.Joining
import Rollup.Url.Mapping
import Rollup.Url.Punycode

set_option autoImplicit false

namespace Rollup.Url

/-- Whether a character is one of ASCII. -/
def isPlain (c : Char) : Bool := c.toNat < 0x80

/-- Whether no name has a character. -/
def isDenied (c : Char) : Bool :=
  c.toNat ≤ 0x20 || c.toNat = 0x7F ||
    c ∈ ['%', '#', '/', ':', '<', '>', '?', '@', '[', '\\', ']', '^', '|']

/-- The characters of the general category M. -/
def markLines : List String := [
  "300+6F 483+6 591+2C 5BF 5C1+1 5C4+1 5C7 610+A 64B+14 670 6D6+6 6DF+5 6E7+1 6EA+3 711 730+1A",
  "7A6+A 7EB+8 7FD 816+3 81B+8 825+2 829+4 859+2 897+8 8CA+39 93A+2 93E+11 951+6 962+1 981+2",
  "9BC 9BE+F 9D7 9E2+1 9FE+5 A3C+15 A70+1 A75 A81+2 ABC ABE+F AE2+1 AFA+9 B3C B3E+19 B62+1 B82",
  "BBE+F BD7 C00+4 C3C C3E+18 C62+1 C81+2 CBC CBE+18 CE2+1 CF3+10 D3B+1 D3E+F D57 D62+1 D81+2",
  "DCA+15 DF2+1 E31 E34+6 E47+7 EB1 EB4+8 EC8+6 F18+1 F35 F37 F39 F3E+1 F71+13 F86+1 F8D+2F FC6",
  "102B+13 1056+3 105E+2 1062+2 1067+6 1071+3 1082+B 108F 109A+3 135D+2 1712+3 1732+2 1752+1",
  "1772+1 17B6+1D 17DD 1885+1 18A9 1920+1B 1A17+4 1A55+2A 1AB0+54 1B34+10 1B6B+8 1B80+2 1BA1+C",
  "1BE6+D 1C24+13 1CD0+2 1CD4+14 1CED 1CF4 1CF7+2 1DC0+3F 20D0+20 2CEF+2 2D7F 2DE0+1F 302A+5",
  "3099+1 A66F+3 A674+9 A69E+1 A6F0+1 A802 A806 A80B A823+4 A82C A880+1 A8B4+11 A8E0+11 A8FF",
  "A926+7 A947+C A980+3 A9B3+D A9E5 AA29+D AA43 AA4C+1 AA7B+2 AAB0 AAB2+2 AAB7+1 AABE+1 AAC1",
  "AAEB+4 AAF5+1 ABE3+7 ABEC+1 FB1E FE20+F 101FD 102E0 10376+4 10A01+E 10A38+7 10AE5+1 10D24+3",
  "10D69+4 10EAB+1 10EFA+5 10F46+A 10F82+3 11000+2 11038+E 11070 11073+1 1107F+3 110B0+A 110C2",
  "11100+2 11127+D 11145+1 11173 11180+2 111B3+D 111C9+3 111CE+1 1122C+B 1123E 11241 112DF+B",
  "11300+3 1133B+1 1133E+F 11357 11362+12 113B8+18 113D2 113E1+1 11435+11 1145E 114B0+13",
  "115AF+11 115DC+1 11630+10 116AB+C 1171D+E 1182C+E 11930+E 11940 11942+1 119D1+F 119E4",
  "11A01+9 11A33+6 11A3B+3 11A47 11A51+A 11A8A+F 11B60+7 11C2F+10 11C92+24 11D31+14 11D47",
  "11D8A+D 11EF3+3 11F00+1 11F03 11F34+E 11F5A 13440 13447+E 1611E+11 16AF0+4 16B30+6 16F4F",
  "16F51+41 16FE4+D 1BC9D+1 1CF00+46 1D165+4 1D16D+15 1D185+6 1D1AA+3 1D242+2 1DA00+36 1DA3B+31",
  "1DA75 1DA84 1DA9B+14 1E000+8F 1E130+6 1E2AE 1E2EC+3 1E4EC+3 1E5EE+1 1E6E3 1E6E6 1E6EE+1",
  "1E6F5 1E8D0+6 1E944+6"]

/-- The ranges of marks. -/
def markRanges : List (Nat × Nat) := Text.Table.ranges markLines

/-- Whether a character is a mark. -/
def isMark (c : Char) : Bool := Text.inRanges markRanges c.toNat

/-- A label: its characters, and how they are spelled in ASCII. -/
structure Label where
  text : List Char
  spelling : List Char
  deriving DecidableEq, Repr

namespace Label

/-- What the spelling of a label begins with that is not plain. -/
def marker : List Char := "xn--".toList

/-- How long a label may be that is spelled. -/
def longestText : Nat := 1000

/-- How long the Punycode of a label may be. -/
def longestCode : Nat := 2000

/-- Reads a label that begins with the marker. -/
def ofCode? (spelling : List Char) : Option Label :=
  let code := spelling.drop marker.length
  if code.all isPlain && code.getLast?.any (· ≠ '-') && code.length ≤ longestCode then
    match Punycode.decode? code with
    | some text => if isMapped text then some ⟨text, spelling⟩ else none
    | none => none
  else none

/-- Reads a label in the one form. -/
def read? (text : List Char) : Option Label :=
  if marker.isPrefixOf text then ofCode? text
  else if text.all isPlain then some ⟨text, text⟩
  else if text.length ≤ longestText then some ⟨text, marker ++ Punycode.encode text⟩
  else none

/-- Whether a label keeps to the rules that concern it alone. -/
def isProper (l : Label) : Bool :=
  !l.text.any isDenied && (l.text.all isPlain || (!l.text.head?.any isMark && joins l.text))

end Label

namespace Domain

/-- Spells a name in ASCII; none, if there is no such name. -/
def spelling? (name : List Char) : Option (List Char) := do
  let labels ← (Text.parts '.' (← mapped? name)).mapM Label.read?
  if labels.all Label.isProper && areDirected (labels.map (·.text)) then
    some (Text.joinParts '.' (labels.map (·.spelling)))
  else none

end Domain

end Rollup.Url
