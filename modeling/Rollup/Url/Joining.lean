/-
The characters that join letters and that keep them apart.

Neither shows anything, and a name may have them only where they change how the
letters beside them look: behind a sign that takes a vowel away, and, for the one
that keeps letters apart, between two letters that would be joined without it. The
letters that join are those of the property `Joining_Type` of Unicode 17.
-/
import Rollup.Text.CombiningClass

set_option autoImplicit false

namespace Rollup.Url

/-- Letters that join on both sides: `Joining_Type` D. -/
def dualLines : List String := [
  "620 626 628 62A+4 633+C 641+6 649+1 66E+1 679+E 69A+25 6C1+1 6CC 6CE 6D0+1 6FA+2 6FF 712+2",
  "71A+3 71F+8 729 72B 72D+1 74E+A 75C+E 76D+3 772 775+2 77A+5 7CA+20 841+4 848 84A+9 855 860",
  "862+3 868 886 889+4 88F 8A0+9 8AF+1 8B3+5 8BA+E 1807 1820+58 1887+21 18AA A840+31 10AC0+4",
  "10AD3+3 10AD8+4 10ADE+2 10AEB+3 10B80 10B82 10B86+2 10B8A+1 10B8D 10B90 10BAD+1 10D01+20",
  "10D23 10EC3+1 10EC6+1 10F30+2 10F34+10 10F51+2 10F70+3 10F76+B 10FB0 10FB2+1 10FB8 10FBB+1",
  "10FBE+1 10FC1 10FC4 10FCA 1E922+21"]

/-- Letters that join to the next one only: `Joining_Type` L. -/
def leftLines : List String := [
  "A872 10ACD 10AD7 10D00 10FCB"]

/-- Letters that join to the one before only: `Joining_Type` R. -/
def backLines : List String := [
  "622+3 627 629 62F+3 648 671+2 688+11 6C0 6C3+8 6CD 6CF 6D2+1 6D5 6EE+1 710 715+4 71E 728 72A",
  "72C 72F 74D 759+2 76B+1 771 773+1 778+1 840 846+1 849 854 856+2 867 869+19 88E 8AA+2 8AE",
  "8B1+1 8B9 10AC5 10AC7 10AC9+1 10ACE+4 10ADD 10AE1 10AE4 10AEF 10B81 10B83+2 10B89 10B8C",
  "10B8E+1 10B91 10BA9+3 10D22 10EC2 10F33 10F54 10F74+1 10FB4+2 10FB9+1 10FBD 10FC2+1 10FC9"]

/-- What a join passes over: `Joining_Type` T. -/
def transparentLines : List String := [
  "300+6F 483+6 591+2C 5BF 5C1+1 5C4+1 5C7 610+A 64B+14 670 6D6+6 6DF+5 6E7+1 6EA+3 711 730+1A",
  "7A6+A 7EB+8 7FD 816+3 81B+8 825+2 829+4 859+2 897+8 8CA+38 93A 93C 941+7 94D 951+6 962+1 981",
  "9BC 9C1+3 9CD 9E2+1 9FE+4 A3C A41+10 A70+1 A75 A81+1 ABC AC1+7 ACD AE2+1 AFA+7 B3C B3F B41+3",
  "B4D+9 B62+1 B82 BC0 BCD C00 C04 C3C C3E+2 C46+10 C62+1 C81 CBC CBF CC6 CCC+1 CE2+1 D00+1",
  "D3B+1 D41+3 D4D D62+1 D81 DCA DD2+4 E31 E34+6 E47+7 EB1 EB4+8 EC8+6 F18+1 F35 F37 F39 F71+D",
  "F80+4 F86+1 F8D+2F FC6 102D+3 1032+5 1039+1 103D+1 1058+1 105E+2 1071+3 1082 1085+1 108D",
  "109D 135D+2 1712+2 1732+1 1752+1 1772+1 17B7+6 17C6 17C9+A 17DD 1885+1 18A9 1920+2 1927+1",
  "1932 1939+2 1A17+1 1A1B 1A56 1A58+8 1A62 1A65+7 1A73+C 1AB0+53 1B34 1B36+4 1B3C 1B42 1B6B+8",
  "1B80+1 1BA2+3 1BA8+1 1BAB+2 1BE6 1BE8+1 1BED 1BEF+2 1C2C+7 1C36+1 1CD0+2 1CD4+C 1CE2+6 1CED",
  "1CF4 1CF8+1 1DC0+3F 20D0+20 2CEF+2 2D7F 2DE0+1F 302A+3 3099+1 A66F+3 A674+9 A69E+1 A6F0+1",
  "A802 A806 A80B A825+1 A82C A8C4+1 A8E0+11 A8FF A926+7 A947+A A980+2 A9B3 A9B6+3 A9BC+1 A9E5",
  "AA29+5 AA31+1 AA35+1 AA43 AA4C AA7C AAB0 AAB2+2 AAB7+1 AABE+1 AAC1 AAEC+1 AAF6 ABE5 ABE8",
  "ABED FB1E FE20+F 101FD 102E0 10376+4 10A01+E 10A38+7 10AE5+1 10D24+3 10D69+4 10EAB+1 10EFA+5",
  "10F46+A 10F82+3 11001 11038+E 11070 11073+1 1107F+2 110B3+3 110B9+1 110C2 11100+2 11127+4",
  "1112D+7 11173 11180+1 111B6+8 111C9+3 111CF 1122F+2 11234 11236+1 1123E 11241 112DF 112E3+7",
  "11300+1 1133B+1 11340 11366+E 113BB+5 113CE 113D0 113D2 113E1+1 11438+7 11442+2 11446 1145E",
  "114B3+5 114BA 114BF+1 114C2+1 115B2+3 115BC+1 115BF+1 115DC+1 11633+7 1163D 1163F+1 116AB",
  "116AD 116B0+5 116B7 1171D 1171F 11722+3 11727+4 1182F+8 11839+1 1193B+1 1193E 11943 119D4+7",
  "119E0 11A01+9 11A33+5 11A3B+3 11A47 11A51+5 11A59+2 11A8A+C 11A98+1 11B60 11B62+2 11B66",
  "11C30+D 11C3F 11C92+15 11CAA+6 11CB2+1 11CB5+1 11D31+14 11D47 11D90+1 11D95 11D97 11EF3+1",
  "11F00+1 11F36+4 11F40 11F42 11F5A 13440 13447+E 1611E+B 1612D+2 16AF0+4 16B30+6 16F4F",
  "16F8F+3 16FE4 1BC9D+1 1CF00+46 1D167+2 1D17B+7 1D185+6 1D1AA+3 1D242+2 1DA00+36 1DA3B+31",
  "1DA75 1DA84 1DA9B+14 1E000+8F 1E130+6 1E2AE 1E2EC+3 1E4EC+3 1E5EE+1 1E6E3 1E6E6 1E6EE+1",
  "1E6F5 1E8D0+6 1E944+7"]

/-- The letters that join to the next one. -/
def forwardRanges : List (Nat × Nat) := Text.Table.ranges (dualLines ++ leftLines)

/-- The letters that join to the one before. -/
def backwardRanges : List (Nat × Nat) := Text.Table.ranges (dualLines ++ backLines)

/-- What a join passes over. -/
def transparentRanges : List (Nat × Nat) := Text.Table.ranges transparentLines

/-- Whether the first character that is not passed over lies in ranges. -/
def meets (ranges : List (Nat × Nat)) (text : List Char) : Bool :=
  let isPassed (c : Char) : Bool :=
    !Text.inRanges ranges c.toNat && Text.inRanges transparentRanges c.toNat
  ((text.dropWhile isPassed).head?).any fun c => Text.inRanges ranges c.toNat

/-- What keeps letters apart. -/
def nonJoiner : Char := Char.ofNat 0x200C

/-- What joins letters. -/
def joiner : Char := Char.ofNat 0x200D

/-- Whether a character may stand between text before it, the last character first, and behind. -/
def mayJoin (before : List Char) (c : Char) (behind : List Char) : Bool :=
  if c = joiner then before.head?.any Text.isVirama
  else if c = nonJoiner then
    before.head?.any Text.isVirama || (meets forwardRanges before && meets backwardRanges behind)
  else true

/-- Whether a text may go on with another one behind it, the last character of the first one
first. -/
def joinsFrom : List Char → List Char → Bool
  | _, [] => true
  | before, c :: behind => mayJoin before c behind && joinsFrom (c :: before) behind

/-- Whether all that joins and keeps apart stands in the right places. -/
def joins (text : List Char) : Bool := joinsFrom [] text

end Rollup.Url
