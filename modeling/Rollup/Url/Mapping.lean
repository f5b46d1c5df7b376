/-
How the characters of names are brought into one form.

A character behind ASCII stays as it is, is left out, is replaced, or cannot be
in a name at all. Of ASCII, the capital letters become small ones, and all else
stays; what of it no name may have is not decided here.
-/
import Rollup.Text.Composition
import Rollup.Url.Images

set_option autoImplicit false

namespace Rollup.Url

/-- The characters behind ASCII that stay as they are. Entries run on over characters that are left
out or replaced. -/
def validLines : List String := [
  "A1+2D6 37B+2 390 3AC+183 559+31 58D+2 591+36 5D0+1A 5EF+5 606+15 61D+BF 6DE+2F 710+3A 74D+64",
  "7C0+3A 7FD+30 830+E 840+1B 85E 860+A 870+1F 897+4A 8E3+A0 985+7 98F+1 993+15 9AA+6 9B2 9B6+3",
  "9BC+8 9C7+1 9CB+3 9D7 9E0+3 9E6+18 A01+2 A05+5 A0F+1 A13+15 A2A+6 A32 A35 A38+1 A3C A3E+4",
  "A47+1 A4B+2 A51 A5C A66+10 A81+2 A85+8 A8F+2 A93+15 AAA+6 AB2+1 AB5+4 ABC+9 AC7+2 ACB+2 AD0",
  "AE0+3 AE6+B AF9+6 B01+2 B05+7 B0F+1 B13+15 B2A+6 B32+1 B35+4 B3C+8 B47+1 B4B+2 B55+2 B5F+4",
  "B66+11 B82+1 B85+5 B8E+2 B92+3 B99+1 B9C B9E+1 BA3+1 BA8+2 BAE+B BBE+4 BC6+2 BCA+3 BD0 BD7",
  "BE6+14 C00+C C0E+2 C12+16 C2A+F C3C+8 C46+2 C4A+3 C55+1 C58+2 C5C+1 C60+3 C66+9 C77+15 C8E+2",
  "C92+16 CAA+9 CB5+4 CBC+8 CC6+2 CCA+3 CD5+1 CDC+2 CE0+3 CE6+9 CF1+2 D00+C D0E+2 D12+32 D46+2",
  "D4A+5 D54+F D66+19 D81+2 D85+11 D9A+17 DB3+8 DBD DC0+6 DCA DCF+5 DD6 DD8+7 DE6+9 DF2+2",
  "E01+39 E3F+1C E81+1 E84 E86+4 E8C+17 EA5 EA7+16 EC0+4 EC6 EC8+6 ED0+9 EDE+1 F00+47 F49+23",
  "F71+26 F99+23 FBE+E FCE+C 1000+9F 10D0+178 124A+3 1250+6 1258 125A+3 1260+28 128A+3 1290+20",
  "12B2+3 12B8+6 12C0 12C2+3 12C8+E 12D8+38 1312+3 1318+42 135D+1F 1380+19 13A0+55 1400+27F",
  "1681+1B 16A0+58 1700+15 171F+17 1740+13 1760+C 176E+2 1772+1 1780+5D 17E0+9 17F0+9 1800+19",
  "1820+58 1880+2A 18B0+45 1900+1E 1920+B 1930+B 1940 1944+29 1970+4 1980+2B 19B0+19 19D0+A",
  "19DE+3D 1A1E+40 1A60+1C 1A7F+A 1A90+9 1AA0+D 1AB0+2D 1AE0+B 1B00+4C 1B4E+A5 1BFC+3B 1C3B+E",
  "1C4D+3D 1CC0+7 1CD0+2A 1D00+215 1F20+25 1F50+7 1F60+1C 1FB0+1 1FB6 1FC6+C 1FD6+1 1FE0+7 1FF6",
  "200C+1 2010+13 2027 2030+2E 20A0+21 20D0+20 2104+87 2190+299 2440+A 24EB+688 2B76+17D",
  "2CF9+2C 2D27 2D2D 2D30+37 2D70 2D7F+17 2DA0+6 2DA8+6 2DB0+6 2DB8+6 2DC0+6 2DC8+6 2DD0+6",
  "2DD8+6 2DE0+7D 2E80+19 2E9B+57 3001+3E 3041+55 3099+65 3105+2A 3190+55 31F0+F 3248+37",
  "3400+708C A490+36 A4D0+15B A641+B6 A700+DB A7F6+36 A830+9 A840+37 A880+45 A8CE+B A8E0+73",
  "A95F+1D A980+4D A9CF+A A9DE+20 AA00+36 AA40+D AA50+9 AA5C+66 AADB+1B AB01+5 AB09+5 AB11+5",
  "AB20+6 AB28+6 AB30+3B ABC0+2D ABF0+9 AC00+2BA3 D7B0+16 D7CB+30 FA0E+1B FB1E FBB2+21D FDFD+2",
  "FE20+F FE45+1 FE73 10000+B 1000D+19 10028+12 1003C+1 1003F+E 10050+D 10080+7A 10100+2",
  "10107+2C 10137+57 10190+C 101A0 101D0+2D 10280+1C 102A0+30 102E0+1B 10300+23 1032D+1D",
  "10350+2A 10380+1D 1039F+24 103C8+D 10428+75 104A0+9 104D8+23 10500+27 10530+33 1056F 10597+A",
  "105A3+E 105B3+6 105BB+1 105C0+33 10600+136 10740+15 10760+7 10780 10800+5 10808 1080A+2B",
  "10837+1 1083C 1083F+16 10857+47 108A7+8 108E0+12 108F4+1 108FB+20 1091F+1A 1093F+1A 10980+37",
  "109BC+13 109D2+31 10A05+1 10A0C+7 10A15+2 10A19+1C 10A38+2 10A3F+9 10A50+8 10A60+3F 10AC0+26",
  "10AEB+B 10B00+35 10B39+1C 10B58+1A 10B78+19 10B99+3 10BA9+6 10C00+48 10CC0+32 10CFA+2D",
  "10D30+9 10D40+F 10D69+1C 10D8E+1 10E60+1E 10E80+29 10EAB+2 10EB0+1 10EC2+5 10ED0+8 10EFA+2D",
  "10F30+29 10F70+19 10FB0+1B 10FE0+16 11000+4D 11052+23 1107F+3D 110BE+4 110D0+18 110F0+9",
  "11100+34 11136+11 11150+26 11180+5F 111E1+13 11200+11 11213+2E 11280+6 11288 1128A+3 1128F+E",
  "1129F+A 112B0+3A 112F0+9 11300+3 11305+7 1130F+1 11313+15 1132A+6 11332+1 11335+4 1133B+9",
  "11347+1 1134B+2 11350 11357 1135D+6 11366+6 11370+4 11380+9 1138B 1138E 11390+25 113B7+9",
  "113C2 113C5 113C7+3 113CC+9 113D7+1 113E1+1 11400+5B 1145D+4 11480+47 114D0+9 11580+35",
  "115B8+25 11600+44 11650+9 11660+C 11680+39 116C0+9 116D0+13 11700+1A 1171D+E 11730+16",
  "11800+3B 118C0+32 118FF+7 11909 1190C+7 11915+1 11918+1D 11937+1 1193B+B 11950+9 119A0+7",
  "119AA+2D 119DA+A 11A00+47 11A50+52 11AB0+48 11B00+9 11B60+7 11BC0+21 11BF0+9 11C00+8",
  "11C0A+2C 11C38+D 11C50+1C 11C70+1F 11C92+15 11CA9+D 11D00+6 11D08+1 11D0B+2B 11D3A 11D3C+1",
  "11D3F+8 11D50+9 11D60+5 11D67+1 11D6A+24 11D90+1 11D93+5 11DA0+9 11DB0+2B 11DE0+9 11EE0+18",
  "11F00+10 11F12+28 11F3E+1C 11FB0 11FC0+31 11FFF+39A 12400+6E 12470+4 12480+C3 12F90+62",
  "13000+42F 13440+15 13460+F9A 14400+246 16100+39 16800+238 16A40+1E 16A60+9 16A6E+50 16AC0+9",
  "16AD0+1D 16AF0+5 16B00+45 16B50+9 16B5B+6 16B63+14 16B7D+12 16D40+39 16E60+3A 16EBB+18",
  "16F00+4A 16F4F+38 16F8F+10 16FE0+4 16FF0+6 17000+1CD5 18CFF+1F 18D80+72 1AFF0+3 1AFF5+6",
  "1AFFD+1 1B000+122 1B132 1B150+2 1B155 1B164+3 1B170+18B 1BC00+6A 1BC70+C 1BC80+8 1BC90+9",
  "1BC9C+3 1CC00+FC 1CD00+1B3 1CEBA+16 1CEE0+10 1CF00+2D 1CF30+16 1CF50+73 1D000+F5 1D100+26",
  "1D129+C1 1D200+45 1D2C0+13 1D2E0+13 1D300+56 1D360+18 1D800+28B 1DA9B+4 1DAA1+E 1DF00+1E",
  "1DF25+5 1E000+6 1E008+10 1E01B+6 1E023+1 1E026+4 1E08F 1E100+2C 1E130+D 1E140+9 1E14E+1",
  "1E290+1E 1E2C0+39 1E2FF 1E4D0+29 1E5D0+2A 1E5FF 1E6C0+1E 1E6E0+15 1E6FE+1 1E7E0+6 1E7E8+3",
  "1E7ED+1 1E7F0+E 1E800+C4 1E8C7+F 1E922+29 1E950+9 1E95E+1 1EC71+43 1ED01+3C 1EEF0+1 1F000+2B",
  "1F030+63 1F0A0+E 1F0B1+E 1F0C1+E 1F0D1+24 1F10B+A2 1F1E6+19 1F260+5 1F300+3D8 1F6DC+10",
  "1F6F0+C 1F700+D9 1F7E0+B 1F7F0 1F800+B 1F810+37 1F850+9 1F860+27 1F890+1D 1F8B0+B 1F8C0+1",
  "1F8D0+8 1F900+157 1FA60+D 1FA70+C 1FA80+A 1FA8E+38 1FAC8 1FACD+F 1FADF+B 1FAEF+9 1FB00+92",
  "1FB94+66 20000+A6DF 2A700+111D 2B820+168D 2CEB0+1D30 2EBF0+26D 30000+134A 31350+2129"]

/-- The characters that are left out. -/
def ignoredLines : List String := [
  "AD 34F 115F+1 17B4+1 180B+4 200B 2060+4 206A+5 3164 FE00+F FEFF FFA0 1BCA0+3 1D173+7",
  "E0100+EF"]

/-- The ranges of the characters behind ASCII that stay as they are, if they are neither left out
nor replaced. -/
def validRanges : List (Nat × Nat) := Text.Table.ranges validLines

/-- The ranges of the characters that are left out. -/
def ignoredRanges : List (Nat × Nat) := Text.Table.ranges ignoredLines

/-- What a character becomes; none, if it cannot be in a name. -/
def image? (c : Char) : Option (List Char) :=
  if c.toNat < 0x80 then some [c.toLower]
  else if Text.inRanges ignoredRanges c.toNat then some []
  else match replaced? c.toNat with
    | some image => some (image.map Char.ofNat)
    | none => if Text.inRanges validRanges c.toNat then some [c] else none

/-- A name in the one form, composed. -/
def mapped? (name : List Char) : Option (List Char) :=
  (name.mapM image?).map fun images => Text.composed images.flatten

/-- Whether a text is in the one form already. -/
def isMapped (text : List Char) : Bool :=
  text.all (fun c => image? c == some [c]) && Text.composed text == text

end Rollup.Url
