/-
Which way a name runs.

Hebrew and Arabic letters run from right to left, other letters from left to
right, and numbers, signs and marks go along with them. A label that runs one way
must not have letters in it that run the other way, and must begin and end such
that it is seen at once which way it runs. The classes of characters are those of
the property `Bidi_Class` of Unicode 17, as far as names can have the characters.
-/
import Rollup.Text.Table

set_option autoImplicit false

namespace Rollup.Url

/-- How a character takes part in the direction of a text. -/
inductive Direction where
  /-- A letter that runs from left to right. -/
  | left
  /-- A letter that runs from right to left. -/
  | right
  /-- A digit of a number in Arabic script. -/
  | arabicNumber
  /-- A digit of another number. -/
  | europeanNumber
  /-- A mark on the character before. -/
  | nonspacing
  | neutral
  deriving DecidableEq, Repr

/-- Letters written to the left: the classes R and AL of `Bidi_Class`. -/
def rightLines : List String := [
  "5BE 5C0 5C3 5C6 5D0+24 608 60B 60D 61B+2F 66D+2 671+64 6E5+1 6EE+1 6FA+16 712+1D 74D+58",
  "7B1+39 7F4+1 7FA 7FE+17 81A 824 828 830+28 85E+31 8A0+29 FBB2+20 FD90+3E FE73 10800+11B",
  "10920+E0 10A10+25 10A40+A4 10AEB+4A 10B40+1E3 10D40+F 10D6E+21 10E80+29 10EAD+2B 10F00+45",
  "10F51+30 10F86+70 1E800+CF 1E922+21 1E94B+3F2"]

/-- Digits of numbers in Arabic script: the class AN. -/
def arabicNumberLines : List String := [
  "660+9 66B+1 10D30+9 10E60+1E"]

/-- Digits of other numbers, those of ASCII excepted: the class EN. -/
def europeanNumberLines : List String := [
  "6F0+9 102E1+1A"]

/-- Marks without a width of their own: the class NSM. -/
def nonspacingLines : List String := [
  "300+6F 483+6 591+2C 5BF 5C1+1 5C4+1 5C7 610+A 64B+14 670 6D6+6 6DF+5 6E7+1 6EA+3 711 730+1A",
  "7A6+A 7EB+8 7FD 816+3 81B+8 825+2 829+4 859+2 897+8 8CA+38 93A 93C 941+7 94D 951+6 962+1 981",
  "9BC 9C1+3 9CD 9E2+1 9FE+4 A3C A41+10 A70+1 A75 A81+1 ABC AC1+7 ACD AE2+1 AFA+7 B3C B3F B41+3",
  "B4D+9 B62+1 B82 BC0 BCD C00 C04 C3C C3E+2 C46+10 C62+1 C81 CBC CCC+1 CE2+1 D00+1 D3B+1 D41+3",
  "D4D D62+1 D81 DCA DD2+4 E31 E34+6 E47+7 EB1 EB4+8 EC8+6 F18+1 F35 F37 F39 F71+D F80+4 F86+1",
  "F8D+2F FC6 102D+3 1032+5 1039+1 103D+1 1058+1 105E+2 1071+3 1082 1085+1 108D 109D 135D+2",
  "1712+2 1732+1 1752+1 1772+1 17B7+6 17C6 17C9+A 17DD 1885+1 18A9 1920+2 1927+1 1932 1939+2",
  "1A17+1 1A1B 1A56 1A58+8 1A62 1A65+7 1A73+C 1AB0+53 1B34 1B36+4 1B3C 1B42 1B6B+8 1B80+1",
  "1BA2+3 1BA8+1 1BAB+2 1BE6 1BE8+1 1BED 1BEF+2 1C2C+7 1C36+1 1CD0+2 1CD4+C 1CE2+6 1CED 1CF4",
  "1CF8+1 1DC0+3F 20D0+20 2CEF+2 2D7F 2DE0+1F 302A+3 3099+1 A66F+3 A674+9 A69E+1 A6F0+1 A802",
  "A806 A80B A825+1 A82C A8C4+1 A8E0+11 A8FF A926+7 A947+A A980+2 A9B3 A9B6+3 A9BC+1 A9E5",
  "AA29+5 AA31+1 AA35+1 AA43 AA4C AA7C AAB0 AAB2+2 AAB7+1 AABE+1 AAC1 AAEC+1 AAF6 ABE5 ABE8",
  "ABED FB1E FE20+F 101FD 102E0 10376+4 10A01+E 10A38+7 10AE5+1 10D24+3 10D69+4 10EAB+1 10EFA+5",
  "10F46+A 10F82+3 11001 11038+E 11070 11073+1 1107F+2 110B3+3 110B9+1 110C2 11100+2 11127+4",
  "1112D+7 11173 11180+1 111B6+8 111C9+3 111CF 1122F+2 11234 11236+1 1123E 11241 112DF 112E3+7",
  "11300+1 1133B+1 11340 11366+E 113BB+5 113CE 113D0 113D2 113E1+1 11438+7 11442+2 11446 1145E",
  "114B3+5 114BA 114BF+1 114C2+1 115B2+3 115BC+1 115BF+1 115DC+1 11633+7 1163D 1163F+1 116AB",
  "116AD 116B0+5 116B7 1171D+2 11722+3 11727+4 1182F+8 11839+1 1193B+1 1193E 11943 119D4+7",
  "119E0 11A01+5 11A09+1 11A33+5 11A3B+3 11A47 11A51+5 11A59+2 11A8A+C 11A98+1 11B60 11B62+2",
  "11B66 11C30+D 11C92+15 11CAA+6 11CB2+1 11CB5+1 11D31+14 11D47 11D90+1 11D95 11D97 11EF3+1",
  "11F00+1 11F36+4 11F40 11F42 11F5A 13440 13447+E 1611E+B 1612D+2 16AF0+4 16B30+6 16F4F",
  "16F8F+3 16FE4 1BC9D+1 1CF00+46 1D167+2 1D17B+7 1D185+6 1D1AA+3 1D242+2 1DA00+36 1DA3B+31",
  "1DA75 1DA84 1DA9B+14 1E000+8F 1E130+6 1E2AE 1E2EC+3 1E4EC+3 1E5EE+1 1E6E3 1E6E6 1E6EE+1",
  "1E6F5 1E8D0+6 1E944+6"]

/-- What has no direction: the classes ES, CS, ET, ON and BN. -/
def neutralLines : List String := [
  "A1+36 F7 2B9+1 2C2+D 2D2+1B 2EF+10 375 3F6 58A+5 606+1 609+1 60C 60E+1 66A 6DE 6E9 7F6+3",
  "9F2+1 9FB AF1 BF3+7 C78+6 E3F F3A+3 1390+9 1400 169B+1 17DB 17F0+1A 1940+5 19DE+21 1B4E+1",
  "1B7F 200C+B5 2104+49 218A+1AB 237B+19 2396+315 26AD+152 2900+2FF 2CE5+5 2CF9+6 2E00+204",
  "3008+18 3030 3037 303D+2 30A0 30FB 31C0+25 4DC0+3F A490+36 A60D+2 A673 A67E+1 A700+21 A788",
  "A828+3 A838+1 A874+3 AB6A+1 FD3E+11 FDCF+30 FE45+1 10101 10140+4C 10190+10 1091F 10B39+6",
  "11052+13 113D4+4 11660+C 11BE1 11FD5+1C 16D6D+2 16FE2 1CC00+2F0 1D1E9+58 1D245 1D300+56",
  "1E2FF 1E5FF 1EEF0+23F 1F16D+2 1F1AD 1F260+99A"]

/-- The classes of the characters behind ASCII, with their ranges. -/
def directionRanges : List (Direction × List (Nat × Nat)) :=
  [(.right, Text.Table.ranges rightLines), (.arabicNumber, Text.Table.ranges arabicNumberLines),
    (.europeanNumber, Text.Table.ranges europeanNumberLines),
    (.nonspacing, Text.Table.ranges nonspacingLines),
    (.neutral, Text.Table.ranges neutralLines)]

/-- The class of a character. -/
def Direction.of (c : Char) : Direction :=
  if c.toNat < 0x80 then
    if c.isAlpha then .left else if c.isDigit then .europeanNumber else .neutral
  else
    ((directionRanges.find? fun row => Text.inRanges row.2 c.toNat).map (·.1)).getD .left

/-- Whether a character makes the name that it is in one with two directions. -/
def Direction.isRightward : Direction → Bool
  | .right => true
  | .arabicNumber => true
  | _ => false

/-- Whether a label with classes runs one way. -/
def runsOneWay (classes : List Direction) : Bool :=
  let last := (classes.reverse.dropWhile (· = .nonspacing)).head?
  match classes with
  | [] => true
  -- A label that runs to the right may not end in what runs to the left, nor hold any of it.
  | .left :: _ =>
    last.all (· ∈ [.left, .europeanNumber]) && !classes.any Direction.isRightward
  | .right :: _ =>
    last.all (· ∈ [.right, .europeanNumber, .arabicNumber]) && !classes.contains .left &&
      !(classes.contains .europeanNumber && classes.contains .arabicNumber)
  | _ => false

/-- Whether the labels of a name run one way each, if any runs from right to left. -/
def areDirected (labels : List (List Char)) : Bool :=
  let classes := labels.map (·.map Direction.of)
  !classes.any (·.any Direction.isRightward) || classes.all runsOneWay

end Rollup.Url
