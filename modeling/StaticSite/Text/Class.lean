import StaticSite.Text.Table

/-!
# Character classes

Each class is a rule on ASCII and a table beyond it. The ASCII half is written out, so a
statement about template markers, which are ASCII, never opens a table.
-/

namespace StaticSite.Text

/-- Whether the code point of `c` lies in one of the ranges. -/
def inRanges (ranges : Array (Nat × Nat)) (c : Char) : Bool :=
  ranges.any fun range => range.1 ≤ c.toNat && c.toNat ≤ range.2

def isAscii (c : Char) : Bool := c.toNat < 128

/-- Blank characters: tab to carriage return, the four separators, the space, and the blanks
beyond ASCII. -/
def isBlank (c : Char) : Bool :=
  if isAscii c then (9 ≤ c.toNat && c.toNat ≤ 13) || (28 ≤ c.toNat && c.toNat ≤ 32)
  else inRanges Table.blank c

def isAsciiDigit (c : Char) : Bool := '0' ≤ c && c ≤ '9'

def isAsciiLower (c : Char) : Bool := 'a' ≤ c && c ≤ 'z'

def isAsciiUpper (c : Char) : Bool := 'A' ≤ c && c ≤ 'Z'

/-- Letters of every script. -/
def isAlphabetic (c : Char) : Bool :=
  if isAscii c then isAsciiLower c || isAsciiUpper c else inRanges Table.alphabetic c

/-- Decimal digits of every script. -/
def isDecimal (c : Char) : Bool :=
  if isAscii c then isAsciiDigit c else inRanges Table.decimal c

/-- Digits in the wide sense, superscripts included. -/
def isDigit (c : Char) : Bool :=
  if isAscii c then isAsciiDigit c else inRanges Table.decimal c || inRanges Table.otherDigit c

/-- Digits, fractions and number letters. -/
def isNumeric (c : Char) : Bool :=
  if isAscii c then isAsciiDigit c else isDigit c || inRanges Table.otherNumeric c

def isAlphanumeric (c : Char) : Bool := isAlphabetic c || isNumeric c

/-- Letters, numerics and the low line. -/
def isWord (c : Char) : Bool :=
  if isAscii c then isAsciiLower c || isAsciiUpper c || isAsciiDigit c || c == '_'
  else isAlphanumeric c

def isIdentifierStart (c : Char) : Bool :=
  if isAscii c then isAsciiLower c || isAsciiUpper c || c == '_'
  else (isAlphabetic c && !inRanges Table.nonIdentifierStart c)
    || inRanges Table.extraIdentifierStart c

def isIdentifierContinue (c : Char) : Bool :=
  if isAscii c then isWord c
  else (isWord c && !inRanges Table.nonIdentifierContinue c)
    || inRanges Table.extraIdentifierContinue c

def isIdentifier : List Char → Bool
  | [] => false
  | c :: rest => isIdentifierStart c && rest.all isIdentifierContinue

/-- Characters that a quoted text shows as they are. -/
def isPrintable (c : Char) : Bool :=
  if isAscii c then 32 ≤ c.toNat && c.toNat < 127 else !inRanges Table.unprintable c

/-- The value of a decimal digit of any script. -/
def decimalValue? (c : Char) : Option Nat :=
  if isAscii c then (if isAsciiDigit c then some (c.toNat - 48) else none)
  else (Table.decimal.find? fun range => range.1 ≤ c.toNat && c.toNat ≤ range.2).map
    fun range => (c.toNat - range.1) % 10

/-- The value of a hexadecimal digit written in ASCII. -/
def hexValue? (c : Char) : Option Nat :=
  if isAsciiDigit c then some (c.toNat - 48)
  else if 'a' ≤ c && c ≤ 'f' then some (c.toNat - 87)
  else if 'A' ≤ c && c ≤ 'F' then some (c.toNat - 55)
  else none

end StaticSite.Text
