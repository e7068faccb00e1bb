import StaticSite.Text.Class

/-!
# Quoted texts

A text is quoted between single quotes, or between double quotes if it holds a single quote and no
double one. The backslash, the chosen quote and the common control characters are escaped by one
letter, every other unprintable character by its number.
-/

namespace StaticSite.Text

def hexDigit (n : Nat) : Char := if n < 10 then Char.ofNat (48 + n) else Char.ofNat (87 + n)

/-- The last `width` hexadecimal digits of a number, in small letters. -/
def hex : (width : Nat) → Nat → List Char
  | 0, _ => []
  | width + 1, n => hex width (n / 16) ++ [hexDigit (n % 16)]

/-- A number escape of the shortest of the three widths. -/
def numberEscape (c : Char) : List Char :=
  if c.toNat < 0x100 then '\\' :: 'x' :: hex 2 c.toNat
  else if c.toNat < 0x10000 then '\\' :: 'u' :: hex 4 c.toNat
  else '\\' :: 'U' :: hex 8 c.toNat

def quotedChar (quote c : Char) : List Char :=
  if c = quote || c = '\\' then ['\\', c]
  else if c = '\n' then ['\\', 'n']
  else if c = '\r' then ['\\', 'r']
  else if c = '\t' then ['\\', 't']
  else if isPrintable c then [c]
  else numberEscape c

def quoteFor (s : List Char) : Char := if s.elem '\'' && !s.elem '"' then '"' else '\''

def quoted (s : List Char) : List Char :=
  quoteFor s :: s.flatMap (quotedChar (quoteFor s)) ++ [quoteFor s]

/-- The quoted form of a string. -/
def quotedString (s : String) : String := String.ofList (quoted s.toList)

end StaticSite.Text
