/-
The combining classes of characters.

A character with a class other than zero is drawn onto the one in front of it.
Marks of different classes do not get in each other's way, so that their order has
no meaning, while the order of marks of one class has. Class nine is that of the
signs that take a vowel away from a consonant. The classes are those of Unicode 17.
-/
import Rollup.Text.Table

set_option autoImplicit false

namespace Rollup.Text

/-- The classes other than zero, with the characters of each. -/
def classLines : List (Nat × List String) := [
  (1, ["334+4 1CD4 1CE2+6 20D2+1 20D8+2 20E5+1 20EA+1 10A39 16AF0+4 1BC9E 1D167+2"]),
  (6, ["16FF0+1"]),
  (7, [
    "93C 9BC A3C ABC B3C C3C CBC 1037 1B34 1BE6 1C37 A9B3 110BA 11173 111CA 11236 112E9",
    "1133B+1 11446 114C3 115C0 116B7 1183A 11943 11D42 1E94A"]),
  (8, ["3099+1"]),
  (9, [
    "94D 9CD A4D ACD B4D BCD C4D CCD D3B+1 D4D DCA E3A EBA F84 1039+1 1714+1 1734 17D2 1A60",
    "1B44 1BAA+1 1BF2+1 2D7F A806 A82C A8C4 A953 A9C0 AAF6 ABED 10A3F 11046 11070 1107F 110B9",
    "11133+1 111C0 11235 112EA 1134D 113CE+2 11442 114C2 115BF 1163F 116B6 1172B 11839",
    "1193D+1 119E0 11A34 11A47 11A99 11C3F 11D44+1 11D97 11F41+1 1612F"]),
  (10, ["5B0"]),
  (11, ["5B1"]),
  (12, ["5B2"]),
  (13, ["5B3"]),
  (14, ["5B4"]),
  (15, ["5B5"]),
  (16, ["5B6"]),
  (17, ["5B7"]),
  (18, ["5B8 5C7"]),
  (19, ["5B9+1"]),
  (20, ["5BB"]),
  (21, ["5BC"]),
  (22, ["5BD"]),
  (23, ["5BF"]),
  (24, ["5C1"]),
  (25, ["5C2"]),
  (26, ["FB1E"]),
  (27, ["64B 8F0"]),
  (28, ["64C 8F1"]),
  (29, ["64D 8F2"]),
  (30, ["618 64E"]),
  (31, ["619 64F"]),
  (32, ["61A 650"]),
  (33, ["651"]),
  (34, ["652"]),
  (35, ["670"]),
  (36, ["711"]),
  (84, ["C55"]),
  (91, ["C56"]),
  (103, ["E38+1"]),
  (107, ["E48+3"]),
  (118, ["EB8+1"]),
  (122, ["EC8+3"]),
  (129, ["F71"]),
  (130, ["F72 F7A+3 F80"]),
  (132, ["F74"]),
  (202, ["321+1 327+1 1DD0"]),
  (214, ["1DCE"]),
  (216, ["31B F39 1D165+1 1D16E+4"]),
  (218, ["1DFA 302A"]),
  (220, [
    "316+3 31C+4 323+3 329+A 339+3 347+2 34D+1 353+3 359+1 591 596 59B 5A2+5 5AA 5C5 655+1",
    "65C 65F 6E3 6EA 6ED 731 734 737+2 73B+1 73E 742 744 746 748 7F2 7FD 859+2 899+2 8CF+4",
    "8E3 8E6 8E9 8ED+2 8F6 8F9+1 952 F18+1 F35 F37 FC6 108D 193B 1A18 1A7F 1AB5+5 1ABD 1ABF+1",
    "1AC3+1 1ACA 1ADD 1AE6 1B6C 1CD5+4 1CDC+3 1CED 1DC2 1DCA 1DCF 1DF9 1DFD 1DFF 20E8 20EC+3",
    "A92B+2 AAB4 FE27+6 101FD 102E0 10A0D 10A3A 10AE6 10EFA+1 10EFD+2 10F46+1 10F4B 10F4D+3",
    "10F83 10F85 1D17B+7 1D18A+1 1E4EE 1E5EF 1E8D0+6"]),
  (222, ["59A 5AD 1939 302D"]),
  (224, ["302E+1"]),
  (226, ["1D16D"]),
  (228, ["5AE 18A9 1DF7+1 302B"]),
  (230, [
    "300+14 33D+2 342 346 34A+2 350+2 357 35B 363+C 483+4 592+3 597+2 59C+5 5A8+1 5AB+1 5AF",
    "5C4 610+7 653+1 657+4 65D+1 6D6+6 6DF+3 6E4 6E7+1 6EB+1 730 732+1 735+1 73A 73D 73F+2",
    "743 745 747 749+1 7EB+6 7F3 816+3 81B+8 825+2 829+4 897+1 89C+3 8CA+4 8D4+D 8E4+1 8E7+1",
    "8EA+2 8F3+2 8F7+1 8FB+4 951 953+1 9FE F82+1 F86+1 135D+2 17DD 193A 1A17 1A75+7 1AB0+4",
    "1ABB+1 1AC1+1 1AC5+4 1ACB+11 1AE0+5 1AE7+3 1B6B 1B6D+6 1CD0+2 1CDA+1 1CE0 1CF4 1CF8+1",
    "1DC0+1 1DC3+6 1DCB+1 1DD1+24 1DFB 1DFE 20D0+1 20D4+3 20DB+1 20E1 20E7 20E9 20F0 2CEF+2",
    "2DE0+1F A66F A674+9 A69E+1 A6F0+1 A8E0+11 AAB0 AAB2+1 AAB7+1 AABE+1 AAC1 FE20+6 FE2E+1",
    "10376+4 10A0F 10A38 10AE5 10D24+3 10D69+4 10EAB+1 10F48+2 10F4C 10F82 10F84 11100+2",
    "11366+6 11370+4 1145E 16B30+6 1D185+4 1D1AA+3 1D242+2 1E000+6 1E008+10 1E01B+6 1E023+1",
    "1E026+4 1E08F 1E130+6 1E2AE 1E2EC+3 1E4EF 1E5EE 1E6E3 1E6E6 1E6EE+1 1E6F5 1E944+5"]),
  (232, ["315 31A 358 1DF6 302C 1E4EC+1"]),
  (233, ["35C 35F 362 1DFC"]),
  (234, ["35D+1 360+1 1AEB 1DCD"]),
  (240, ["345"])]

/-- The classes other than zero, with the ranges of their characters. -/
def classRanges : List (Nat × List (Nat × Nat)) :=
  classLines.map fun row => (row.1, Table.ranges row.2)

/-- The class of a character. -/
def combiningClass (c : Char) : Nat :=
  if c.toNat < 0x300 then 0
  else ((classRanges.find? fun row => inRanges row.2 c.toNat).map (·.1)).getD 0

/-- Whether a character takes the vowel away from a consonant in front of it. -/
def isVirama (c : Char) : Bool := combiningClass c = 9

end Rollup.Text
