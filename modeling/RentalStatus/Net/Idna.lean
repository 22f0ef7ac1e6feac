import RentalStatus.Net.IdnaMapping
import RentalStatus.Net.Punycode

namespace RentalStatus

namespace Idna

open Text

def deniedInHost (c : Char) : Bool :=
  c.toNat ≤ 0x20 || c.toNat = 0x7F || "%#/:<>?@[\\]^|".toList.contains c

def dispositionOf (c : Char) : Disposition := if isOpen c then .valid else disposition c

def classOf (c : Char) : BidiClass := if isOpen c then .leftToRight else bidiClass c

def mapName : List Char → Option (List Char)
  | [] => some []
  | c :: cs =>
    match dispositionOf c with
    | .valid => (c :: ·) <$> mapName cs
    | .mapped r => (r ++ ·) <$> mapName cs
    | .ignored => mapName cs
    | .disallowed => none

def hasPunycodePrefix (l : List Char) : Bool := l.take 4 == ['x', 'n', '-', '-']

def unicodeLabel (l : List Char) : Option (List Char) :=
  if hasPunycodePrefix l then
    let code := l.drop 4
    if code.isEmpty || code.getLast? == some '-' || code.any (·.toNat ≥ 0x80) then none
    else
      match Punycode.decode code with
      | some u => if u.all (·.toNat < 0x80) then none else some u
      | none => none
  else some l

def isKept (c : Char) : Bool := dispositionOf c == .valid

def joinsNext (sides : List JoiningType) (cs : List Char) : Bool :=
  match cs.dropWhile (joiningType · == .transparent) with
  | c :: _ => sides.contains (joiningType c)
  | [] => false

def joinersFit (before : List Char) : List Char → Bool
  | [] => true
  | c :: after =>
    let afterVirama := before.head?.any isVirama
    let fits :=
      if c.toNat = 0x200C then
        afterVirama || (joinsNext [.left, .dual] before && joinsNext [.right, .dual] after)
      else if c.toNat = 0x200D then afterVirama
      else true
    fits && joinersFit (c :: before) after

def isRightToLeft (c : Char) : Bool :=
  [BidiClass.rightToLeft, .arabicLetter, .arabicNumber].contains (classOf c)

def bidiFits (l : List Char) : Bool :=
  match l with
  | [] => true
  | c :: _ =>
    let classes := l.map classOf
    let last := (classes.reverse.dropWhile (· == .nonspacingMark)).head?
    match classOf c with
    | .rightToLeft | .arabicLetter =>
      classes.all ([.rightToLeft, .arabicLetter, .arabicNumber, .europeanNumber,
          .europeanSeparator, .commonSeparator, .europeanTerminator, .otherNeutral,
          .boundaryNeutral, .nonspacingMark].contains ·) &&
        last.any ([.rightToLeft, .arabicLetter, .europeanNumber, .arabicNumber].contains ·) &&
        !(classes.contains .europeanNumber && classes.contains .arabicNumber)
    | .leftToRight =>
      classes.all ([.leftToRight, .europeanNumber, .europeanSeparator, .commonSeparator,
          .europeanTerminator, .otherNeutral, .boundaryNeutral, .nonspacingMark].contains ·) &&
        last.any ([.leftToRight, .europeanNumber].contains ·)
    | _ => false

def labelFits (bidi : Bool) (l : List Char) : Bool :=
  !hasPunycodePrefix l && !(l.head?.any isMark) && l.all isKept && joinersFit [] l &&
    (!bidi || bidiFits l)

/-- The standard form of a host name, with `xn--` labels kept as they are; none when the name
is refused. -/
def standardName (host : List Char) : Option (List Char) := do
  let mapped ← mapName host
  if mapped.any deniedInHost then none
  let labels ← (mapped.splitOn '.').mapM unicodeLabel
  let bidi := labels.any (·.any isRightToLeft)
  if labels.all (labelFits bidi) then some mapped else none

end Idna

end RentalStatus
