import RentalStatus.Text.Printable

namespace RentalStatus

namespace Text

def escapedAsCode (c : Char) : Bool := isExtending c || !isPrintable c

def quotedChar (c : Char) : String :=
  if c = '\x00' then "\\0"
  else if c = '\t' then "\\t"
  else if c = '\n' then "\\n"
  else if c = '\r' then "\\r"
  else if c = '\\' then "\\\\"
  else if c = '"' then "\\\""
  else if escapedAsCode c then "\\u\x7b" ++ String.ofList (Nat.toDigits 16 c.toNat) ++ "\x7d"
  else c.toString

/-- A text in double quotes with escapes. -/
def quoted (s : String) : String := "\"" ++ String.join (s.toList.map quotedChar) ++ "\""

example : quoted "a\"b\\c\n" = "\"a\\\"b\\\\c\\n\"" := by decide
example : quoted "\x1b" = "\"\\u\x7b1b\x7d\"" := by decide

end Text

end RentalStatus
