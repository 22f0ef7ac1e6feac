namespace RentalStatus

namespace Text

def hexValue? (c : Char) : Option Nat :=
  if c.isDigit then some (c.toNat - '0'.toNat)
  else if 'A' ≤ c ∧ c ≤ 'F' then some (c.toNat - 'A'.toNat + 10)
  else if 'a' ≤ c ∧ c ≤ 'f' then some (c.toNat - 'a'.toNat + 10)
  else none

def hexPrefix : List Char → Nat → Nat × List Char
  | [], acc => (acc, [])
  | c :: cs, acc =>
    match hexValue? c with
    | some d => hexPrefix cs (16 * acc + d)
    | none => (acc, c :: cs)

def tableWords (s : String) : List (List Char) :=
  (s.toList.splitOnP fun c => c = ' ' ∨ c = '\n').filter (!·.isEmpty)

def keyedTable (value : List Char → Option α) (s : String) : Array (Nat × α) :=
  ((tableWords s).filterMap fun w =>
    let (start, rest) := hexPrefix w 0
    (value rest).map fun v => (start, v)).toArray

def letterAfterColon (read : List Char → Option α) : List Char → Option α
  | ':' :: rest => read rest
  | _ => none

def rangeTable (s : String) : Array (Nat × Nat) :=
  keyedTable (fun rest => match rest with
    | '-' :: more => some (hexPrefix more 0).1
    | _ => none) s

def lastStartingBy (t : Array (Nat × α)) (n lo hi : Nat) : (fuel : Nat) → Nat
  | 0 => lo
  | fuel + 1 =>
    if lo + 1 < hi then
      let mid := (lo + hi) / 2
      match t[mid]? with
      | some (start, _) =>
        if start ≤ n then lastStartingBy t n mid hi fuel else lastStartingBy t n lo mid fuel
      | none => lo
    else lo

/-- The value of the last entry starting at or before `n` in a table ascending by start; none
when every entry starts after `n`. -/
def lookup (t : Array (Nat × α)) (n : Nat) : Option α :=
  match t[0]? with
  | none => none
  | some (first, _) =>
    if n < first then none
    else (t[lastStartingBy t n 0 t.size (Nat.log2 t.size + 1)]?).map (·.2)

def inRangeTable (t : Array (Nat × Nat)) (n : Nat) : Bool :=
  match lookup t n with
  | some last => n ≤ last
  | none => false

inductive BidiClass where
  | leftToRight | rightToLeft | arabicLetter | arabicNumber | europeanNumber
  | europeanSeparator | commonSeparator | europeanTerminator | otherNeutral | boundaryNeutral
  | nonspacingMark | other
  deriving DecidableEq, Repr

def BidiClass.ofLetter : List Char → Option BidiClass
  | ['L'] => some .leftToRight
  | ['R'] => some .rightToLeft
  | ['A'] => some .arabicLetter
  | ['N'] => some .arabicNumber
  | ['E'] => some .europeanNumber
  | ['S'] => some .europeanSeparator
  | ['C'] => some .commonSeparator
  | ['T'] => some .europeanTerminator
  | ['O'] => some .otherNeutral
  | ['B'] => some .boundaryNeutral
  | ['M'] => some .nonspacingMark
  | ['Z'] => some .other
  | _ => none

def bidiText : String :=
  "0:B 9:Z E:B 1C:Z 21:O 23:T 26:O 2B:S 2C:C 2D:S 2E:C 30:E 3A:C 3B:O 41:L 5B:O 61:L 7B:O 7F:B 85:Z
86:B A0:C A1:O A2:T A6:O AA:L AB:O AD:B AE:O B0:T B2:E B4:O B5:L B6:O B9:E BA:L BB:O C0:L D7:O D8:L
F7:O F8:L 2B9:O 2BB:L 2C2:O 2D0:L 2D2:O 2E0:L 2E5:O 2EE:L 2EF:O 300:M 370:L 374:O 376:L 37E:O 37F:L
384:O 386:L 387:O 388:L 3F6:O 3F7:L 483:M 48A:L 58A:O 58B:L 58D:O 58F:T 590:R 591:M 5BE:R 5BF:M
5C0:R 5C1:M 5C3:R 5C4:M 5C6:R 5C7:M 5C8:R 600:N 606:O 608:A 609:T 60B:A 60C:C 60D:A 60E:O 610:M
61B:A 64B:M 660:N 66A:T 66B:N 66D:A 670:M 671:A 6D6:M 6DD:N 6DE:O 6DF:M 6E5:A 6E7:M 6E9:O 6EA:M
6EE:A 6F0:E 6FA:A 711:M 712:A 730:M 74B:A 7A6:M 7B1:A 7C0:R 7EB:M 7F4:R 7F6:O 7FA:R 7FD:M 7FE:R
816:M 81A:R 81B:M 824:R 825:M 828:R 829:M 82E:R 859:M 85C:R 860:A 890:N 892:A 897:M 8A0:A 8CA:M
8E2:N 8E3:M 903:L 93A:M 93B:L 93C:M 93D:L 941:M 949:L 94D:M 94E:L 951:M 958:L 962:M 964:L 981:M
982:L 9BC:M 9BD:L 9C1:M 9C5:L 9CD:M 9CE:L 9E2:M 9E4:L 9F2:T 9F4:L 9FB:T 9FC:L 9FE:M 9FF:L A01:M
A03:L A3C:M A3D:L A41:M A43:L A47:M A49:L A4B:M A4E:L A51:M A52:L A70:M A72:L A75:M A76:L A81:M
A83:L ABC:M ABD:L AC1:M AC6:L AC7:M AC9:L ACD:M ACE:L AE2:M AE4:L AF1:T AF2:L AFA:M B00:L B01:M
B02:L B3C:M B3D:L B3F:M B40:L B41:M B45:L B4D:M B4E:L B55:M B57:L B62:M B64:L B82:M B83:L BC0:M
BC1:L BCD:M BCE:L BF3:O BF9:T BFA:O BFB:L C00:M C01:L C04:M C05:L C3C:M C3D:L C3E:M C41:L C46:M
C49:L C4A:M C4E:L C55:M C57:L C62:M C64:L C78:O C7F:L C81:M C82:L CBC:M CBD:L CCC:M CCE:L CE2:M
CE4:L D00:M D02:L D3B:M D3D:L D41:M D45:L D4D:M D4E:L D62:M D64:L D81:M D82:L DCA:M DCB:L DD2:M
DD5:L DD6:M DD7:L E31:M E32:L E34:M E3B:L E3F:T E40:L E47:M E4F:L EB1:M EB2:L EB4:M EBD:L EC8:M
ECF:L F18:M F1A:L F35:M F36:L F37:M F38:L F39:M F3A:O F3E:L F71:M F7F:L F80:M F85:L F86:M F88:L
F8D:M F98:L F99:M FBD:L FC6:M FC7:L 102D:M 1031:L 1032:M 1038:L 1039:M 103B:L 103D:M 103F:L 1058:M
105A:L 105E:M 1061:L 1071:M 1075:L 1082:M 1083:L 1085:M 1087:L 108D:M 108E:L 109D:M 109E:L 135D:M
1360:L 1390:O 139A:L 1400:O 1401:L 1680:Z 1681:L 169B:O 169D:L 1712:M 1715:L 1732:M 1734:L 1752:M
1754:L 1772:M 1774:L 17B4:M 17B6:L 17B7:M 17BE:L 17C6:M 17C7:L 17C9:M 17D4:L 17DB:T 17DC:L 17DD:M
17DE:L 17F0:O 17FA:L 1800:O 180B:M 180E:B 180F:M 1810:L 1885:M 1887:L 18A9:M 18AA:L 1920:M 1923:L
1927:M 1929:L 1932:M 1933:L 1939:M 193C:L 1940:O 1941:L 1944:O 1946:L 19DE:O 1A00:L 1A17:M 1A19:L
1A1B:M 1A1C:L 1A56:M 1A57:L 1A58:M 1A5F:L 1A60:M 1A61:L 1A62:M 1A63:L 1A65:M 1A6D:L 1A73:M 1A7D:L
1A7F:M 1A80:L 1AB0:M 1ADE:L 1AE0:M 1AEC:L 1B00:M 1B04:L 1B34:M 1B35:L 1B36:M 1B3B:L 1B3C:M 1B3D:L
1B42:M 1B43:L 1B6B:M 1B74:L 1B80:M 1B82:L 1BA2:M 1BA6:L 1BA8:M 1BAA:L 1BAB:M 1BAE:L 1BE6:M 1BE7:L
1BE8:M 1BEA:L 1BED:M 1BEE:L 1BEF:M 1BF2:L 1C2C:M 1C34:L 1C36:M 1C38:L 1CD0:M 1CD3:L 1CD4:M 1CE1:L
1CE2:M 1CE9:L 1CED:M 1CEE:L 1CF4:M 1CF5:L 1CF8:M 1CFA:L 1DC0:M 1E00:L 1FBD:O 1FBE:L 1FBF:O 1FC2:L
1FCD:O 1FD0:L 1FDD:O 1FE0:L 1FED:O 1FF0:L 1FFD:O 1FFF:L 2000:Z 200B:B 200E:L 200F:R 2010:O 2028:Z
202F:C 2030:T 2035:O 2044:C 2045:O 205F:Z 2060:B 2066:Z 206A:B 2070:E 2071:L 2074:E 207A:S 207C:O
207F:L 2080:E 208A:S 208C:O 208F:L 20A0:T 20D0:M 20F1:L 2100:O 2102:L 2103:O 2107:L 2108:O 210A:L
2114:O 2115:L 2116:O 2119:L 211E:O 2124:L 2125:O 2126:L 2127:O 2128:L 2129:O 212A:L 212E:T 212F:L
213A:O 213C:L 2140:O 2145:L 214A:O 214E:L 2150:O 2160:L 2189:O 218C:L 2190:O 2212:S 2213:T 2214:O
2336:L 237B:O 2395:L 2396:O 242A:L 2440:O 244B:L 2460:O 2488:E 249C:L 24EA:O 26AC:L 26AD:O 2800:L
2900:O 2B74:L 2B76:O 2C00:L 2CE5:O 2CEB:L 2CEF:M 2CF2:L 2CF9:O 2D00:L 2D7F:M 2D80:L 2DE0:M 2E00:O
2E5E:L 2E80:O 2E9A:L 2E9B:O 2EF4:L 2F00:O 2FD6:L 2FF0:O 3000:Z 3001:O 3005:L 3008:O 3021:L 302A:M
302E:L 3030:O 3031:L 3036:O 3038:L 303D:O 3040:L 3099:M 309B:O 309D:L 30A0:O 30A1:L 30FB:O 30FC:L
31C0:O 31E6:L 31EF:O 31F0:L 321D:O 321F:L 3250:O 3260:L 327C:O 327F:L 32B1:O 32C0:L 32CC:O 32D0:L
3377:O 337B:L 33DE:O 33E0:L 33FF:O 3400:L 4DC0:O 4E00:L A490:O A4C7:L A60D:O A610:L A66F:M A673:O
A674:M A67E:O A680:L A69E:M A6A0:L A6F0:M A6F2:L A700:O A722:L A788:O A789:L A802:M A803:L A806:M
A807:L A80B:M A80C:L A825:M A827:L A828:O A82C:M A82D:L A838:T A83A:L A874:O A878:L A8C4:M A8C6:L
A8E0:M A8F2:L A8FF:M A900:L A926:M A92E:L A947:M A952:L A980:M A983:L A9B3:M A9B4:L A9B6:M A9BA:L
A9BC:M A9BE:L A9E5:M A9E6:L AA29:M AA2F:L AA31:M AA33:L AA35:M AA37:L AA43:M AA44:L AA4C:M AA4D:L
AA7C:M AA7D:L AAB0:M AAB1:L AAB2:M AAB5:L AAB7:M AAB9:L AABE:M AAC0:L AAC1:M AAC2:L AAEC:M AAEE:L
AAF6:M AAF7:L AB6A:O AB6C:L ABE5:M ABE6:L ABE8:M ABE9:L ABED:M ABEE:L FB1D:R FB1E:M FB1F:R FB29:S
FB2A:R FB50:A FD3E:O FD50:A FDCF:O FDD0:B FDF0:A FDFD:O FE00:M FE10:O FE1A:L FE20:M FE30:O FE50:C
FE51:O FE52:C FE53:L FE54:O FE55:C FE56:O FE5F:T FE60:O FE62:S FE64:O FE67:L FE68:O FE69:T FE6B:O
FE6C:L FE70:A FEFF:B FF00:L FF01:O FF03:T FF06:O FF0B:S FF0C:C FF0D:S FF0E:C FF10:E FF1A:C FF1B:O
FF21:L FF3B:O FF41:L FF5B:O FF66:L FFE0:T FFE2:O FFE5:T FFE7:L FFE8:O FFEF:L FFF0:B FFF9:O FFFE:B
10000:L 10101:O 10102:L 10140:O 1018D:L 10190:O 1019D:L 101A0:O 101A1:L 101FD:M 101FE:L 102E0:M
102E1:E 102FC:L 10376:M 1037B:L 10800:R 1091F:O 10920:R 10A01:M 10A04:R 10A05:M 10A07:R 10A0C:M
10A10:R 10A38:M 10A3B:R 10A3F:M 10A40:R 10AE5:M 10AE7:R 10B39:O 10B40:R 10D00:A 10D24:M 10D28:A
10D30:N 10D3A:A 10D40:N 10D4A:R 10D69:M 10D6E:R 10E60:N 10E7F:R 10EAB:M 10EAD:R 10EC0:A 10EFA:M
10F00:R 10F30:A 10F46:M 10F51:A 10F70:R 10F82:M 10F86:R 11000:L 11001:M 11002:L 11038:M 11047:L
11052:O 11066:L 11070:M 11071:L 11073:M 11075:L 1107F:M 11082:L 110B3:M 110B7:L 110B9:M 110BB:L
110C2:M 110C3:L 11100:M 11103:L 11127:M 1112C:L 1112D:M 11135:L 11173:M 11174:L 11180:M 11182:L
111B6:M 111BF:L 111C9:M 111CD:L 111CF:M 111D0:L 1122F:M 11232:L 11234:M 11235:L 11236:M 11238:L
1123E:M 1123F:L 11241:M 11242:L 112DF:M 112E0:L 112E3:M 112EB:L 11300:M 11302:L 1133B:M 1133D:L
11340:M 11341:L 11366:M 1136D:L 11370:M 11375:L 113BB:M 113C1:L 113CE:M 113CF:L 113D0:M 113D1:L
113D2:M 113D3:L 113E1:M 113E3:L 11438:M 11440:L 11442:M 11445:L 11446:M 11447:L 1145E:M 1145F:L
114B3:M 114B9:L 114BA:M 114BB:L 114BF:M 114C1:L 114C2:M 114C4:L 115B2:M 115B6:L 115BC:M 115BE:L
115BF:M 115C1:L 115DC:M 115DE:L 11633:M 1163B:L 1163D:M 1163E:L 1163F:M 11641:L 11660:O 1166D:L
116AB:M 116AC:L 116AD:M 116AE:L 116B0:M 116B6:L 116B7:M 116B8:L 1171D:M 11720:L 11722:M 11726:L
11727:M 1172C:L 1182F:M 11838:L 11839:M 1183B:L 1193B:M 1193D:L 1193E:M 1193F:L 11943:M 11944:L
119D4:M 119D8:L 119DA:M 119DC:L 119E0:M 119E1:L 11A01:M 11A07:L 11A09:M 11A0B:L 11A33:M 11A39:L
11A3B:M 11A3F:L 11A47:M 11A48:L 11A51:M 11A57:L 11A59:M 11A5C:L 11A8A:M 11A97:L 11A98:M 11A9A:L
11B60:M 11B61:L 11B62:M 11B65:L 11B66:M 11B67:L 11C30:M 11C37:L 11C38:M 11C3E:L 11C92:M 11CA8:L
11CAA:M 11CB1:L 11CB2:M 11CB4:L 11CB5:M 11CB7:L 11D31:M 11D37:L 11D3A:M 11D3B:L 11D3C:M 11D3E:L
11D3F:M 11D46:L 11D47:M 11D48:L 11D90:M 11D92:L 11D95:M 11D96:L 11D97:M 11D98:L 11EF3:M 11EF5:L
11F00:M 11F02:L 11F36:M 11F3B:L 11F40:M 11F41:L 11F42:M 11F43:L 11F5A:M 11F5B:L 11FD5:O 11FDD:T
11FE1:O 11FF2:L 13440:M 13441:L 13447:M 13456:L 1611E:M 1612A:L 1612D:M 16130:L 16AF0:M 16AF5:L
16B30:M 16B37:L 16F4F:M 16F50:L 16F8F:M 16F93:L 16FE2:O 16FE3:L 16FE4:M 16FE5:L 1BC9D:M 1BC9F:L
1BCA0:B 1BCA4:L 1CC00:O 1CCF0:E 1CCFA:O 1CCFD:L 1CD00:O 1CEB4:L 1CEBA:O 1CED1:L 1CEE0:O 1CEF1:L
1CF00:M 1CF2E:L 1CF30:M 1CF47:L 1D167:M 1D16A:L 1D173:B 1D17B:M 1D183:L 1D185:M 1D18C:L 1D1AA:M
1D1AE:L 1D1E9:O 1D1EB:L 1D200:O 1D242:M 1D245:O 1D246:L 1D300:O 1D357:L 1D6DB:O 1D6DC:L 1D715:O
1D716:L 1D74F:O 1D750:L 1D789:O 1D78A:L 1D7C3:O 1D7C4:L 1D7CE:E 1D800:L 1DA00:M 1DA37:L 1DA3B:M
1DA6D:L 1DA75:M 1DA76:L 1DA84:M 1DA85:L 1DA9B:M 1DAA0:L 1DAA1:M 1DAB0:L 1E000:M 1E007:L 1E008:M
1E019:L 1E01B:M 1E022:L 1E023:M 1E025:L 1E026:M 1E02B:L 1E08F:M 1E090:L 1E130:M 1E137:L 1E2AE:M
1E2AF:L 1E2EC:M 1E2F0:L 1E2FF:T 1E300:L 1E4EC:M 1E4F0:L 1E5EE:M 1E5F0:L 1E6E3:M 1E6E4:L 1E6E6:M
1E6E7:L 1E6EE:M 1E6F0:L 1E6F5:M 1E6F6:L 1E800:R 1E8D0:M 1E8D7:R 1E944:M 1E94B:R 1EC70:A 1ECC0:R
1ED00:A 1ED50:R 1EE00:A 1EEF0:O 1EEF2:A 1EF00:R 1F000:O 1F02C:L 1F030:O 1F094:L 1F0A0:O 1F0AF:L
1F0B1:O 1F0C0:L 1F0C1:O 1F0D0:L 1F0D1:O 1F0F6:L 1F100:E 1F10B:O 1F110:L 1F12F:O 1F130:L 1F16A:O
1F170:L 1F1AD:O 1F1AE:L 1F260:O 1F266:L 1F300:O 1F6D9:L 1F6DC:O 1F6ED:L 1F6F0:O 1F6FD:L 1F700:O
1F7DA:L 1F7E0:O 1F7EC:L 1F7F0:O 1F7F1:L 1F800:O 1F80C:L 1F810:O 1F848:L 1F850:O 1F85A:L 1F860:O
1F888:L 1F890:O 1F8AE:L 1F8B0:O 1F8BC:L 1F8C0:O 1F8C2:L 1F8D0:O 1F8D9:L 1F900:O 1FA58:L 1FA60:O
1FA6E:L 1FA70:O 1FA7D:L 1FA80:O 1FA8B:L 1FA8E:O 1FAC7:L 1FAC8:O 1FAC9:L 1FACD:O 1FADD:L 1FADF:O
1FAEB:L 1FAEF:O 1FAF9:L 1FB00:O 1FB93:L 1FB94:O 1FBF0:E 1FBFA:O 1FBFB:L 1FFFE:B 20000:L 2FFFE:B
30000:L 3FFFE:B 40000:L 4FFFE:B 50000:L 5FFFE:B 60000:L 6FFFE:B 70000:L 7FFFE:B 80000:L 8FFFE:B
90000:L 9FFFE:B A0000:L AFFFE:B B0000:L BFFFE:B C0000:L CFFFE:B D0000:L DFFFE:B E0100:M E01F0:B
E1000:L EFFFE:B F0000:L FFFFE:B 100000:L 10FFFE:B"

def bidiTable : Array (Nat × BidiClass) :=
  keyedTable (letterAfterColon BidiClass.ofLetter) bidiText

def bidiClass (c : Char) : BidiClass := (lookup bidiTable c.toNat).getD .leftToRight

inductive JoiningType where
  | left | dual | right | transparent | nonJoining
  deriving DecidableEq, Repr

def JoiningType.ofLetter : List Char → Option JoiningType
  | ['L'] => some .left
  | ['D'] => some .dual
  | ['R'] => some .right
  | ['T'] => some .transparent
  | ['U'] => some .nonJoining
  | _ => none

def joiningText : String :=
  "0:U AD:T AE:U 300:T 370:U 483:T 48A:U 591:T 5BE:U 5BF:T 5C0:U 5C1:T 5C3:U 5C4:T 5C6:U 5C7:T
5C8:U 610:T 61B:U 61C:T 61D:U 620:D 621:U 622:R 626:D 627:R 628:D 629:R 62A:D 62F:R 633:D 640:U
641:D 648:R 649:D 64B:T 660:U 66E:D 670:T 671:R 674:U 675:R 678:D 688:R 69A:D 6C0:R 6C1:D 6C3:R
6CC:D 6CD:R 6CE:D 6CF:R 6D0:D 6D2:R 6D4:U 6D5:R 6D6:T 6DD:U 6DF:T 6E5:U 6E7:T 6E9:U 6EA:T 6EE:R
6F0:U 6FA:D 6FD:U 6FF:D 700:U 70F:T 710:R 711:T 712:D 715:R 71A:D 71E:R 71F:D 728:R 729:D 72A:R
72B:D 72C:R 72D:D 72F:R 730:T 74B:U 74D:R 74E:D 759:R 75C:D 76B:R 76D:D 771:R 772:D 773:R 775:D
778:R 77A:D 780:U 7A6:T 7B1:U 7CA:D 7EB:T 7F4:U 7FD:T 7FE:U 816:T 81A:U 81B:T 824:U 825:T 828:U
829:T 82E:U 840:R 841:D 846:R 848:D 849:R 84A:D 854:R 855:D 856:R 859:T 85C:U 860:D 861:U 862:D
866:U 867:R 868:D 869:R 86B:U 870:R 883:U 886:D 887:U 889:D 88E:R 88F:D 890:U 897:T 8A0:D 8AA:R
8AD:U 8AE:R 8AF:D 8B1:R 8B3:D 8B9:R 8BA:D 8C9:U 8CA:T 8E2:U 8E3:T 903:U 93A:T 93B:U 93C:T 93D:U
941:T 949:U 94D:T 94E:U 951:T 958:U 962:T 964:U 981:T 982:U 9BC:T 9BD:U 9C1:T 9C5:U 9CD:T 9CE:U
9E2:T 9E4:U 9FE:T 9FF:U A01:T A03:U A3C:T A3D:U A41:T A43:U A47:T A49:U A4B:T A4E:U A51:T A52:U
A70:T A72:U A75:T A76:U A81:T A83:U ABC:T ABD:U AC1:T AC6:U AC7:T AC9:U ACD:T ACE:U AE2:T AE4:U
AFA:T B00:U B01:T B02:U B3C:T B3D:U B3F:T B40:U B41:T B45:U B4D:T B4E:U B55:T B57:U B62:T B64:U
B82:T B83:U BC0:T BC1:U BCD:T BCE:U C00:T C01:U C04:T C05:U C3C:T C3D:U C3E:T C41:U C46:T C49:U
C4A:T C4E:U C55:T C57:U C62:T C64:U C81:T C82:U CBC:T CBD:U CBF:T CC0:U CC6:T CC7:U CCC:T CCE:U
CE2:T CE4:U D00:T D02:U D3B:T D3D:U D41:T D45:U D4D:T D4E:U D62:T D64:U D81:T D82:U DCA:T DCB:U
DD2:T DD5:U DD6:T DD7:U E31:T E32:U E34:T E3B:U E47:T E4F:U EB1:T EB2:U EB4:T EBD:U EC8:T ECF:U
F18:T F1A:U F35:T F36:U F37:T F38:U F39:T F3A:U F71:T F7F:U F80:T F85:U F86:T F88:U F8D:T F98:U
F99:T FBD:U FC6:T FC7:U 102D:T 1031:U 1032:T 1038:U 1039:T 103B:U 103D:T 103F:U 1058:T 105A:U
105E:T 1061:U 1071:T 1075:U 1082:T 1083:U 1085:T 1087:U 108D:T 108E:U 109D:T 109E:U 135D:T 1360:U
1712:T 1715:U 1732:T 1734:U 1752:T 1754:U 1772:T 1774:U 17B4:T 17B6:U 17B7:T 17BE:U 17C6:T 17C7:U
17C9:T 17D4:U 17DD:T 17DE:U 1807:D 1808:U 180B:T 180E:U 180F:T 1810:U 1820:D 1879:U 1885:T 1887:D
18A9:T 18AA:D 18AB:U 1920:T 1923:U 1927:T 1929:U 1932:T 1933:U 1939:T 193C:U 1A17:T 1A19:U 1A1B:T
1A1C:U 1A56:T 1A57:U 1A58:T 1A5F:U 1A60:T 1A61:U 1A62:T 1A63:U 1A65:T 1A6D:U 1A73:T 1A7D:U 1A7F:T
1A80:U 1AB0:T 1ADE:U 1AE0:T 1AEC:U 1B00:T 1B04:U 1B34:T 1B35:U 1B36:T 1B3B:U 1B3C:T 1B3D:U 1B42:T
1B43:U 1B6B:T 1B74:U 1B80:T 1B82:U 1BA2:T 1BA6:U 1BA8:T 1BAA:U 1BAB:T 1BAE:U 1BE6:T 1BE7:U 1BE8:T
1BEA:U 1BED:T 1BEE:U 1BEF:T 1BF2:U 1C2C:T 1C34:U 1C36:T 1C38:U 1CD0:T 1CD3:U 1CD4:T 1CE1:U 1CE2:T
1CE9:U 1CED:T 1CEE:U 1CF4:T 1CF5:U 1CF8:T 1CFA:U 1DC0:T 1E00:U 200B:T 200C:U 200E:T 2010:U 202A:T
202F:U 2060:T 2065:U 206A:T 2070:U 20D0:T 20F1:U 2CEF:T 2CF2:U 2D7F:T 2D80:U 2DE0:T 2E00:U 302A:T
302E:U 3099:T 309B:U A66F:T A673:U A674:T A67E:U A69E:T A6A0:U A6F0:T A6F2:U A802:T A803:U A806:T
A807:U A80B:T A80C:U A825:T A827:U A82C:T A82D:U A840:D A872:L A873:U A8C4:T A8C6:U A8E0:T A8F2:U
A8FF:T A900:U A926:T A92E:U A947:T A952:U A980:T A983:U A9B3:T A9B4:U A9B6:T A9BA:U A9BC:T A9BE:U
A9E5:T A9E6:U AA29:T AA2F:U AA31:T AA33:U AA35:T AA37:U AA43:T AA44:U AA4C:T AA4D:U AA7C:T AA7D:U
AAB0:T AAB1:U AAB2:T AAB5:U AAB7:T AAB9:U AABE:T AAC0:U AAC1:T AAC2:U AAEC:T AAEE:U AAF6:T AAF7:U
ABE5:T ABE6:U ABE8:T ABE9:U ABED:T ABEE:U FB1E:T FB1F:U FE00:T FE10:U FE20:T FE30:U FEFF:T FF00:U
FFF9:T FFFC:U 101FD:T 101FE:U 102E0:T 102E1:U 10376:T 1037B:U 10A01:T 10A04:U 10A05:T 10A07:U
10A0C:T 10A10:U 10A38:T 10A3B:U 10A3F:T 10A40:U 10AC0:D 10AC5:R 10AC6:U 10AC7:R 10AC8:U 10AC9:R
10ACB:U 10ACD:L 10ACE:R 10AD3:D 10AD7:L 10AD8:D 10ADD:R 10ADE:D 10AE1:R 10AE2:U 10AE4:R 10AE5:T
10AE7:U 10AEB:D 10AEF:R 10AF0:U 10B80:D 10B81:R 10B82:D 10B83:R 10B86:D 10B89:R 10B8A:D 10B8C:R
10B8D:D 10B8E:R 10B90:D 10B91:R 10B92:U 10BA9:R 10BAD:D 10BAF:U 10D00:L 10D01:D 10D22:R 10D23:D
10D24:T 10D28:U 10D69:T 10D6E:U 10EAB:T 10EAD:U 10EC2:R 10EC3:D 10EC5:U 10EC6:D 10EC8:U 10EFA:T
10F00:U 10F30:D 10F33:R 10F34:D 10F45:U 10F46:T 10F51:D 10F54:R 10F55:U 10F70:D 10F74:R 10F76:D
10F82:T 10F86:U 10FB0:D 10FB1:U 10FB2:D 10FB4:R 10FB7:U 10FB8:D 10FB9:R 10FBB:D 10FBD:R 10FBE:D
10FC0:U 10FC1:D 10FC2:R 10FC4:D 10FC5:U 10FC9:R 10FCA:D 10FCB:L 10FCC:U 11001:T 11002:U 11038:T
11047:U 11070:T 11071:U 11073:T 11075:U 1107F:T 11082:U 110B3:T 110B7:U 110B9:T 110BB:U 110C2:T
110C3:U 11100:T 11103:U 11127:T 1112C:U 1112D:T 11135:U 11173:T 11174:U 11180:T 11182:U 111B6:T
111BF:U 111C9:T 111CD:U 111CF:T 111D0:U 1122F:T 11232:U 11234:T 11235:U 11236:T 11238:U 1123E:T
1123F:U 11241:T 11242:U 112DF:T 112E0:U 112E3:T 112EB:U 11300:T 11302:U 1133B:T 1133D:U 11340:T
11341:U 11366:T 1136D:U 11370:T 11375:U 113BB:T 113C1:U 113CE:T 113CF:U 113D0:T 113D1:U 113D2:T
113D3:U 113E1:T 113E3:U 11438:T 11440:U 11442:T 11445:U 11446:T 11447:U 1145E:T 1145F:U 114B3:T
114B9:U 114BA:T 114BB:U 114BF:T 114C1:U 114C2:T 114C4:U 115B2:T 115B6:U 115BC:T 115BE:U 115BF:T
115C1:U 115DC:T 115DE:U 11633:T 1163B:U 1163D:T 1163E:U 1163F:T 11641:U 116AB:T 116AC:U 116AD:T
116AE:U 116B0:T 116B6:U 116B7:T 116B8:U 1171D:T 1171E:U 1171F:T 11720:U 11722:T 11726:U 11727:T
1172C:U 1182F:T 11838:U 11839:T 1183B:U 1193B:T 1193D:U 1193E:T 1193F:U 11943:T 11944:U 119D4:T
119D8:U 119DA:T 119DC:U 119E0:T 119E1:U 11A01:T 11A0B:U 11A33:T 11A39:U 11A3B:T 11A3F:U 11A47:T
11A48:U 11A51:T 11A57:U 11A59:T 11A5C:U 11A8A:T 11A97:U 11A98:T 11A9A:U 11B60:T 11B61:U 11B62:T
11B65:U 11B66:T 11B67:U 11C30:T 11C37:U 11C38:T 11C3E:U 11C3F:T 11C40:U 11C92:T 11CA8:U 11CAA:T
11CB1:U 11CB2:T 11CB4:U 11CB5:T 11CB7:U 11D31:T 11D37:U 11D3A:T 11D3B:U 11D3C:T 11D3E:U 11D3F:T
11D46:U 11D47:T 11D48:U 11D90:T 11D92:U 11D95:T 11D96:U 11D97:T 11D98:U 11EF3:T 11EF5:U 11F00:T
11F02:U 11F36:T 11F3B:U 11F40:T 11F41:U 11F42:T 11F43:U 11F5A:T 11F5B:U 13430:T 13441:U 13447:T
13456:U 1611E:T 1612A:U 1612D:T 16130:U 16AF0:T 16AF5:U 16B30:T 16B37:U 16F4F:T 16F50:U 16F8F:T
16F93:U 16FE4:T 16FE5:U 1BC9D:T 1BC9F:U 1BCA0:T 1BCA4:U 1CF00:T 1CF2E:U 1CF30:T 1CF47:U 1D167:T
1D16A:U 1D173:T 1D183:U 1D185:T 1D18C:U 1D1AA:T 1D1AE:U 1D242:T 1D245:U 1DA00:T 1DA37:U 1DA3B:T
1DA6D:U 1DA75:T 1DA76:U 1DA84:T 1DA85:U 1DA9B:T 1DAA0:U 1DAA1:T 1DAB0:U 1E000:T 1E007:U 1E008:T
1E019:U 1E01B:T 1E022:U 1E023:T 1E025:U 1E026:T 1E02B:U 1E08F:T 1E090:U 1E130:T 1E137:U 1E2AE:T
1E2AF:U 1E2EC:T 1E2F0:U 1E4EC:T 1E4F0:U 1E5EE:T 1E5F0:U 1E6E3:T 1E6E4:U 1E6E6:T 1E6E7:U 1E6EE:T
1E6F0:U 1E6F5:T 1E6F6:U 1E8D0:T 1E8D7:U 1E900:D 1E944:T 1E94C:U E0001:T E0002:U E0020:T E0080:U
E0100:T E01F0:U"

def joiningTable : Array (Nat × JoiningType) :=
  keyedTable (letterAfterColon JoiningType.ofLetter) joiningText

def joiningType (c : Char) : JoiningType := (lookup joiningTable c.toNat).getD .nonJoining

def marksText : String :=
  "300-36F 483-489 591-5BD 5BF-5BF 5C1-5C2 5C4-5C5 5C7-5C7 610-61A 64B-65F 670-670 6D6-6DC 6DF-6E4
6E7-6E8 6EA-6ED 711-711 730-74A 7A6-7B0 7EB-7F3 7FD-7FD 816-819 81B-823 825-827 829-82D 859-85B
897-89F 8CA-8E1 8E3-903 93A-93C 93E-94F 951-957 962-963 981-983 9BC-9BC 9BE-9C4 9C7-9C8 9CB-9CD
9D7-9D7 9E2-9E3 9FE-9FE A01-A03 A3C-A3C A3E-A42 A47-A48 A4B-A4D A51-A51 A70-A71 A75-A75 A81-A83
ABC-ABC ABE-AC5 AC7-AC9 ACB-ACD AE2-AE3 AFA-AFF B01-B03 B3C-B3C B3E-B44 B47-B48 B4B-B4D B55-B57
B62-B63 B82-B82 BBE-BC2 BC6-BC8 BCA-BCD BD7-BD7 C00-C04 C3C-C3C C3E-C44 C46-C48 C4A-C4D C55-C56
C62-C63 C81-C83 CBC-CBC CBE-CC4 CC6-CC8 CCA-CCD CD5-CD6 CE2-CE3 CF3-CF3 D00-D03 D3B-D3C D3E-D44
D46-D48 D4A-D4D D57-D57 D62-D63 D81-D83 DCA-DCA DCF-DD4 DD6-DD6 DD8-DDF DF2-DF3 E31-E31 E34-E3A
E47-E4E EB1-EB1 EB4-EBC EC8-ECE F18-F19 F35-F35 F37-F37 F39-F39 F3E-F3F F71-F84 F86-F87 F8D-F97
F99-FBC FC6-FC6 102B-103E 1056-1059 105E-1060 1062-1064 1067-106D 1071-1074 1082-108D 108F-108F
109A-109D 135D-135F 1712-1715 1732-1734 1752-1753 1772-1773 17B4-17D3 17DD-17DD 180B-180D 180F-180F
1885-1886 18A9-18A9 1920-192B 1930-193B 1A17-1A1B 1A55-1A5E 1A60-1A7C 1A7F-1A7F 1AB0-1ADD 1AE0-1AEB
1B00-1B04 1B34-1B44 1B6B-1B73 1B80-1B82 1BA1-1BAD 1BE6-1BF3 1C24-1C37 1CD0-1CD2 1CD4-1CE8 1CED-1CED
1CF4-1CF4 1CF7-1CF9 1DC0-1DFF 20D0-20F0 2CEF-2CF1 2D7F-2D7F 2DE0-2DFF 302A-302F 3099-309A A66F-A672
A674-A67D A69E-A69F A6F0-A6F1 A802-A802 A806-A806 A80B-A80B A823-A827 A82C-A82C A880-A881 A8B4-A8C5
A8E0-A8F1 A8FF-A8FF A926-A92D A947-A953 A980-A983 A9B3-A9C0 A9E5-A9E5 AA29-AA36 AA43-AA43 AA4C-AA4D
AA7B-AA7D AAB0-AAB0 AAB2-AAB4 AAB7-AAB8 AABE-AABF AAC1-AAC1 AAEB-AAEF AAF5-AAF6 ABE3-ABEA ABEC-ABED
FB1E-FB1E FE00-FE0F FE20-FE2F 101FD-101FD 102E0-102E0 10376-1037A 10A01-10A03 10A05-10A06
10A0C-10A0F 10A38-10A3A 10A3F-10A3F 10AE5-10AE6 10D24-10D27 10D69-10D6D 10EAB-10EAC 10EFA-10EFF
10F46-10F50 10F82-10F85 11000-11002 11038-11046 11070-11070 11073-11074 1107F-11082 110B0-110BA
110C2-110C2 11100-11102 11127-11134 11145-11146 11173-11173 11180-11182 111B3-111C0 111C9-111CC
111CE-111CF 1122C-11237 1123E-1123E 11241-11241 112DF-112EA 11300-11303 1133B-1133C 1133E-11344
11347-11348 1134B-1134D 11357-11357 11362-11363 11366-1136C 11370-11374 113B8-113C0 113C2-113C2
113C5-113C5 113C7-113CA 113CC-113D0 113D2-113D2 113E1-113E2 11435-11446 1145E-1145E 114B0-114C3
115AF-115B5 115B8-115C0 115DC-115DD 11630-11640 116AB-116B7 1171D-1172B 1182C-1183A 11930-11935
11937-11938 1193B-1193E 11940-11940 11942-11943 119D1-119D7 119DA-119E0 119E4-119E4 11A01-11A0A
11A33-11A39 11A3B-11A3E 11A47-11A47 11A51-11A5B 11A8A-11A99 11B60-11B67 11C2F-11C36 11C38-11C3F
11C92-11CA7 11CA9-11CB6 11D31-11D36 11D3A-11D3A 11D3C-11D3D 11D3F-11D45 11D47-11D47 11D8A-11D8E
11D90-11D91 11D93-11D97 11EF3-11EF6 11F00-11F01 11F03-11F03 11F34-11F3A 11F3E-11F42 11F5A-11F5A
13440-13440 13447-13455 1611E-1612F 16AF0-16AF4 16B30-16B36 16F4F-16F4F 16F51-16F87 16F8F-16F92
16FE4-16FE4 16FF0-16FF1 1BC9D-1BC9E 1CF00-1CF2D 1CF30-1CF46 1D165-1D169 1D16D-1D172 1D17B-1D182
1D185-1D18B 1D1AA-1D1AD 1D242-1D244 1DA00-1DA36 1DA3B-1DA6C 1DA75-1DA75 1DA84-1DA84 1DA9B-1DA9F
1DAA1-1DAAF 1E000-1E006 1E008-1E018 1E01B-1E021 1E023-1E024 1E026-1E02A 1E08F-1E08F 1E130-1E136
1E2AE-1E2AE 1E2EC-1E2EF 1E4EC-1E4EF 1E5EE-1E5EF 1E6E3-1E6E3 1E6E6-1E6E6 1E6EE-1E6EF 1E6F5-1E6F5
1E8D0-1E8D6 1E944-1E94A E0100-E01EF"

def marksTable : Array (Nat × Nat) := rangeTable marksText

def isMark (c : Char) : Bool := inRangeTable marksTable c.toNat

def viramasText : String :=
  "94D-94D 9CD-9CD A4D-A4D ACD-ACD B4D-B4D BCD-BCD C4D-C4D CCD-CCD D3B-D3C D4D-D4D DCA-DCA E3A-E3A
EBA-EBA F84-F84 1039-103A 1714-1715 1734-1734 17D2-17D2 1A60-1A60 1B44-1B44 1BAA-1BAB 1BF2-1BF3
2D7F-2D7F A806-A806 A82C-A82C A8C4-A8C4 A953-A953 A9C0-A9C0 AAF6-AAF6 ABED-ABED 10A3F-10A3F
11046-11046 11070-11070 1107F-1107F 110B9-110B9 11133-11134 111C0-111C0 11235-11235 112EA-112EA
1134D-1134D 113CE-113D0 11442-11442 114C2-114C2 115BF-115BF 1163F-1163F 116B6-116B6 1172B-1172B
11839-11839 1193D-1193E 119E0-119E0 11A34-11A34 11A47-11A47 11A99-11A99 11C3F-11C3F 11D44-11D45
11D97-11D97 11F41-11F42 1612F-1612F"

def viramasTable : Array (Nat × Nat) := rangeTable viramasText

def isVirama (c : Char) : Bool := inRangeTable viramasTable c.toNat

def openText : String :=
  "378-379 380-383 38B-38B 38D-38D 3A2-3A2 530-530 557-558 58B-58C 590-590 5C8-5CF 5EB-5EE 5F5-5FF
70E-70E 74B-74C 7B2-7BF 7FB-7FC 82E-82F 83F-83F 85C-85D 85F-85F 86B-86F 892-896 984-984 98D-98E
991-992 9A9-9A9 9B1-9B1 9B3-9B5 9BA-9BB 9C5-9C6 9C9-9CA 9CF-9D6 9D8-9DB 9DE-9DE 9E4-9E5 9FF-A00
A04-A04 A0B-A0E A11-A12 A29-A29 A31-A31 A34-A34 A37-A37 A3A-A3B A3D-A3D A43-A46 A49-A4A A4E-A50
A52-A58 A5D-A5D A5F-A65 A77-A80 A84-A84 A8E-A8E A92-A92 AA9-AA9 AB1-AB1 AB4-AB4 ABA-ABB AC6-AC6
ACA-ACA ACE-ACF AD1-ADF AE4-AE5 AF2-AF8 B00-B00 B04-B04 B0D-B0E B11-B12 B29-B29 B31-B31 B34-B34
B3A-B3B B45-B46 B49-B4A B4E-B54 B58-B5B B5E-B5E B64-B65 B78-B81 B84-B84 B8B-B8D B91-B91 B96-B98
B9B-B9B B9D-B9D BA0-BA2 BA5-BA7 BAB-BAD BBA-BBD BC3-BC5 BC9-BC9 BCE-BCF BD1-BD6 BD8-BE5 BFB-BFF
C0D-C0D C11-C11 C29-C29 C3A-C3B C45-C45 C49-C49 C4E-C54 C57-C57 C5B-C5B C5E-C5F C64-C65 C70-C76
C8D-C8D C91-C91 CA9-CA9 CB4-CB4 CBA-CBB CC5-CC5 CC9-CC9 CCE-CD4 CD7-CDB CDF-CDF CE4-CE5 CF0-CF0
CF4-CFF D0D-D0D D11-D11 D45-D45 D49-D49 D50-D53 D64-D65 D80-D80 D84-D84 D97-D99 DB2-DB2 DBC-DBC
DBE-DBF DC7-DC9 DCB-DCE DD5-DD5 DD7-DD7 DE0-DE5 DF0-DF1 DF5-E00 E3B-E3E E5C-E80 E83-E83 E85-E85
E8B-E8B EA4-EA4 EA6-EA6 EBE-EBF EC5-EC5 EC7-EC7 ECF-ECF EDA-EDB EE0-EFF F48-F48 F6D-F70 F98-F98
FBD-FBD FCD-FCD FDB-FFF 10C6-10C6 10C8-10CC 10CE-10CF 1249-1249 124E-124F 1257-1257 1259-1259
125E-125F 1289-1289 128E-128F 12B1-12B1 12B6-12B7 12BF-12BF 12C1-12C1 12C6-12C7 12D7-12D7 1311-1311
1316-1317 135B-135C 137D-137F 139A-139F 13F6-13F7 13FE-13FF 169D-169F 16F9-16FF 1716-171E 1737-173F
1754-175F 176D-176D 1771-1771 1774-177F 17DE-17DF 17EA-17EF 17FA-17FF 181A-181F 1879-187F 18AB-18AF
18F6-18FF 191F-191F 192C-192F 193C-193F 1941-1943 196E-196F 1975-197F 19AC-19AF 19CA-19CF 19DB-19DD
1A1C-1A1D 1A5F-1A5F 1A7D-1A7E 1A8A-1A8F 1A9A-1A9F 1AAE-1AAF 1ADE-1ADF 1AEC-1AFF 1B4D-1B4D 1BF4-1BFB
1C38-1C3A 1C4A-1C4C 1C8B-1C8F 1CBB-1CBC 1CC8-1CCF 1CFB-1CFF 1F16-1F17 1F1E-1F1F 1F46-1F47 1F4E-1F4F
1F58-1F58 1F5A-1F5A 1F5C-1F5C 1F5E-1F5E 1F7E-1F7F 1FB5-1FB5 1FC5-1FC5 1FD4-1FD5 1FDC-1FDC 1FF0-1FF1
1FF5-1FF5 1FFF-1FFF 2072-2073 208F-208F 209D-209F 20C2-20CF 20F1-20FF 218C-218F 242A-243F 244B-245F
2B74-2B75 2CF4-2CF8 2D26-2D26 2D28-2D2C 2D2E-2D2F 2D68-2D6E 2D71-2D7E 2D97-2D9F 2DA7-2DA7 2DAF-2DAF
2DB7-2DB7 2DBF-2DBF 2DC7-2DC7 2DCF-2DCF 2DD7-2DD7 2DDF-2DDF 2E5E-2E7F 2E9A-2E9A 2EF4-2EFF 2FD6-2FEF
3040-3040 3097-3098 3100-3104 3130-3130 318F-318F 31E6-31EE 321F-321F A48D-A48F A4C7-A4CF A62C-A63F
A6F8-A6FF A7DD-A7F0 A82D-A82F A83A-A83F A878-A87F A8C6-A8CD A8DA-A8DF A954-A95E A97D-A97F A9CE-A9CE
A9DA-A9DD A9FF-A9FF AA37-AA3F AA4E-AA4F AA5A-AA5B AAC3-AADA AAF7-AB00 AB07-AB08 AB0F-AB10 AB17-AB1F
AB27-AB27 AB2F-AB2F AB6C-AB6F ABEE-ABEF ABFA-ABFF D7A4-D7AF D7C7-D7CA D7FC-D7FF FA6E-FA6F FADA-FAFF
FB07-FB12 FB18-FB1C FB37-FB37 FB3D-FB3D FB3F-FB3F FB42-FB42 FB45-FB45 FE1A-FE1F FE53-FE53 FE67-FE67
FE6C-FE6F FE75-FE75 FEFD-FEFE FF00-FF00 FFBF-FFC1 FFC8-FFC9 FFD0-FFD1 FFD8-FFD9 FFDD-FFDF FFE7-FFE7
FFEF-FFEF 1000C-1000C 10027-10027 1003B-1003B 1003E-1003E 1004E-1004F 1005E-1007F 100FB-100FF
10103-10106 10134-10136 1018F-1018F 1019D-1019F 101A1-101CF 101FE-1027F 1029D-1029F 102D1-102DF
102FC-102FF 10324-1032C 1034B-1034F 1037B-1037F 1039E-1039E 103C4-103C7 103D6-103FF 1049E-1049F
104AA-104AF 104D4-104D7 104FC-104FF 10528-1052F 10564-1056E 1057B-1057B 1058B-1058B 10593-10593
10596-10596 105A2-105A2 105B2-105B2 105BA-105BA 105BD-105BF 105F4-105FF 10737-1073F 10756-1075F
10768-1077F 10786-10786 107B1-107B1 107BB-107FF 10806-10807 10809-10809 10836-10836 10839-1083B
1083D-1083E 10856-10856 1089F-108A6 108B0-108DF 108F3-108F3 108F6-108FA 1091C-1091E 1093A-1093E
1095A-1097F 109B8-109BB 109D0-109D1 10A04-10A04 10A07-10A0B 10A14-10A14 10A18-10A18 10A36-10A37
10A3B-10A3E 10A49-10A4F 10A59-10A5F 10AA0-10ABF 10AE7-10AEA 10AF7-10AFF 10B36-10B38 10B56-10B57
10B73-10B77 10B92-10B98 10B9D-10BA8 10BB0-10BFF 10C49-10C7F 10CB3-10CBF 10CF3-10CF9 10D28-10D2F
10D3A-10D3F 10D66-10D68 10D86-10D8D 10D90-10E5F 10E7F-10E7F 10EAA-10EAA 10EAE-10EAF 10EB2-10EC1
10EC8-10ECF 10ED9-10EF9 10F28-10F2F 10F5A-10F6F 10F8A-10FAF 10FCC-10FDF 10FF7-10FFF 1104E-11051
11076-1107E 110C3-110CC 110CE-110CF 110E9-110EF 110FA-110FF 11135-11135 11148-1114F 11177-1117F
111E0-111E0 111F5-111FF 11212-11212 11242-1127F 11287-11287 11289-11289 1128E-1128E 1129E-1129E
112AA-112AF 112EB-112EF 112FA-112FF 11304-11304 1130D-1130E 11311-11312 11329-11329 11331-11331
11334-11334 1133A-1133A 11345-11346 11349-1134A 1134E-1134F 11351-11356 11358-1135C 11364-11365
1136D-1136F 11375-1137F 1138A-1138A 1138C-1138D 1138F-1138F 113B6-113B6 113C1-113C1 113C3-113C4
113C6-113C6 113CB-113CB 113D6-113D6 113D9-113E0 113E3-113FF 1145C-1145C 11462-1147F 114C8-114CF
114DA-1157F 115B6-115B7 115DE-115FF 11645-1164F 1165A-1165F 1166D-1167F 116BA-116BF 116CA-116CF
116E4-116FF 1171B-1171C 1172C-1172F 11747-117FF 1183C-1189F 118F3-118FE 11907-11908 1190A-1190B
11914-11914 11917-11917 11936-11936 11939-1193A 11947-1194F 1195A-1199F 119A8-119A9 119D8-119D9
119E5-119FF 11A48-11A4F 11AA3-11AAF 11AF9-11AFF 11B0A-11B5F 11B68-11BBF 11BE2-11BEF 11BFA-11BFF
11C09-11C09 11C37-11C37 11C46-11C4F 11C6D-11C6F 11C90-11C91 11CA8-11CA8 11CB7-11CFF 11D07-11D07
11D0A-11D0A 11D37-11D39 11D3B-11D3B 11D3E-11D3E 11D48-11D4F 11D5A-11D5F 11D66-11D66 11D69-11D69
11D8F-11D8F 11D92-11D92 11D99-11D9F 11DAA-11DAF 11DDC-11DDF 11DEA-11EDF 11EF9-11EFF 11F11-11F11
11F3B-11F3D 11F5B-11FAF 11FB1-11FBF 11FF2-11FFE 1239A-123FF 1246F-1246F 12475-1247F 12544-12F8F
12FF3-12FFF 13456-1345F 143FB-143FF 14647-160FF 1613A-167FF 16A39-16A3F 16A5F-16A5F 16A6A-16A6D
16ABF-16ABF 16ACA-16ACF 16AEE-16AEF 16AF6-16AFF 16B46-16B4F 16B5A-16B5A 16B62-16B62 16B78-16B7C
16B90-16D3F 16D7A-16E3F 16E9B-16E9F 16EB9-16EBA 16ED4-16EFF 16F4B-16F4E 16F88-16F8E 16FA0-16FDF
16FE5-16FEF 16FF7-16FFF 18CD6-18CFE 18D1F-18D7F 18DF3-1AFEF 1AFF4-1AFF4 1AFFC-1AFFC 1AFFF-1AFFF
1B123-1B131 1B133-1B14F 1B153-1B154 1B156-1B163 1B168-1B16F 1B2FC-1BBFF 1BC6B-1BC6F 1BC7D-1BC7F
1BC89-1BC8F 1BC9A-1BC9B 1BCA4-1CBFF 1CCFD-1CCFF 1CEB4-1CEB9 1CED1-1CEDF 1CEF1-1CEFF 1CF2E-1CF2F
1CF47-1CF4F 1CFC4-1CFFF 1D0F6-1D0FF 1D127-1D128 1D1EB-1D1FF 1D246-1D2BF 1D2D4-1D2DF 1D2F4-1D2FF
1D357-1D35F 1D379-1D3FF 1D455-1D455 1D49D-1D49D 1D4A0-1D4A1 1D4A3-1D4A4 1D4A7-1D4A8 1D4AD-1D4AD
1D4BA-1D4BA 1D4BC-1D4BC 1D4C4-1D4C4 1D506-1D506 1D50B-1D50C 1D515-1D515 1D51D-1D51D 1D53A-1D53A
1D53F-1D53F 1D545-1D545 1D547-1D549 1D551-1D551 1D6A6-1D6A7 1D7CC-1D7CD 1DA8C-1DA9A 1DAA0-1DAA0
1DAB0-1DEFF 1DF1F-1DF24 1DF2B-1DFFF 1E007-1E007 1E019-1E01A 1E022-1E022 1E025-1E025 1E02B-1E02F
1E06E-1E08E 1E090-1E0FF 1E12D-1E12F 1E13E-1E13F 1E14A-1E14D 1E150-1E28F 1E2AF-1E2BF 1E2FA-1E2FE
1E300-1E4CF 1E4FA-1E5CF 1E5FB-1E5FE 1E600-1E6BF 1E6DF-1E6DF 1E6F6-1E6FD 1E700-1E7DF 1E7E7-1E7E7
1E7EC-1E7EC 1E7EF-1E7EF 1E7FF-1E7FF 1E8C5-1E8C6 1E8D7-1E8FF 1E94C-1E94F 1E95A-1E95D 1E960-1EC70
1ECB5-1ED00 1ED3E-1EDFF 1EE04-1EE04 1EE20-1EE20 1EE23-1EE23 1EE25-1EE26 1EE28-1EE28 1EE33-1EE33
1EE38-1EE38 1EE3A-1EE3A 1EE3C-1EE41 1EE43-1EE46 1EE48-1EE48 1EE4A-1EE4A 1EE4C-1EE4C 1EE50-1EE50
1EE53-1EE53 1EE55-1EE56 1EE58-1EE58 1EE5A-1EE5A 1EE5C-1EE5C 1EE5E-1EE5E 1EE60-1EE60 1EE63-1EE63
1EE65-1EE66 1EE6B-1EE6B 1EE73-1EE73 1EE78-1EE78 1EE7D-1EE7D 1EE7F-1EE7F 1EE8A-1EE8A 1EE9C-1EEA0
1EEA4-1EEA4 1EEAA-1EEAA 1EEBC-1EEEF 1EEF2-1EFFF 1F02C-1F02F 1F094-1F09F 1F0AF-1F0B0 1F0C0-1F0C0
1F0D0-1F0D0 1F0F6-1F0FF 1F1AE-1F1E5 1F203-1F20F 1F23C-1F23F 1F249-1F24F 1F252-1F25F 1F266-1F2FF
1F6D9-1F6DB 1F6ED-1F6EF 1F6FD-1F6FF 1F7DA-1F7DF 1F7EC-1F7EF 1F7F1-1F7FF 1F80C-1F80F 1F848-1F84F
1F85A-1F85F 1F888-1F88F 1F8AE-1F8AF 1F8BC-1F8BF 1F8C2-1F8CF 1F8D9-1F8FF 1FA58-1FA5F 1FA6E-1FA6F
1FA7D-1FA7F 1FA8B-1FA8D 1FAC7-1FAC7 1FAC9-1FACC 1FADD-1FADE 1FAEB-1FAEE 1FAF9-1FAFF 1FB93-1FB93
1FBFB-1FFFD 2A6E0-2A6FF 2B81E-2B81F 2CEAE-2CEAF 2EBE1-2EBEF 2EE5E-2F7FF 2FA1E-2FFFD 3134B-3134F
3347A-3FFFD"

def openTable : Array (Nat × Nat) := rangeTable openText

def isOpen (c : Char) : Bool := inRangeTable openTable c.toNat

end Text

end RentalStatus
