import GraphCalc.Text.Printable

/-!
# Quoted text

Text between quotes on one line: double quotes if it holds a single quote and no double one, single
quotes otherwise. The quote in use and the backslash are escaped by a backslash, the line feed, carriage
return and tab by their letters, and every other character that is not printable by its code.
-/

namespace GraphCalc.Text

/-- The code of a character in hexadecimal digits, at least `width` of them. -/
def hexadecimal (width : Nat) (code : Nat) : List Char :=
  let digits := Nat.toDigits 16 code
  List.replicate (width - digits.length) '0' ++ digits

/-- The shortest of the three escapes by code that holds a character. -/
def codeEscape (c : Char) : List Char :=
  if c.toNat < 0x100 then ['\\', 'x'] ++ hexadecimal 2 c.toNat
  else if c.toNat < 0x10000 then ['\\', 'u'] ++ hexadecimal 4 c.toNat
  else ['\\', 'U'] ++ hexadecimal 8 c.toNat

/-- A character as it stands between quotes. -/
def escape (quote c : Char) : List Char :=
  if c = quote ∨ c = '\\' then ['\\', c]
  else if c = '\n' then ['\\', 'n']
  else if c = '\r' then ['\\', 'r']
  else if c = '\t' then ['\\', 't']
  else if isPrintable c then [c]
  else codeEscape c

def quoteFor (text : List Char) : Char :=
  if text.contains '\'' && !text.contains '"' then '"' else '\''

def quoted (text : String) : String :=
  let quote := quoteFor text.toList
  String.ofList ([quote] ++ text.toList.flatMap (escape quote) ++ [quote])

end GraphCalc.Text
