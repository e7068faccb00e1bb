import StaticSite.Number.Reading
import StaticSite.Value.Display
import StaticSite.Value.Mapping
import StaticSite.Text.Search

/-!
# Writing JSON

Strings are written in ASCII with every other character escaped, elements are separated by a
comma and a blank, and a key that is a number or a truth value is written as its text. A lenient
writer shows values that JSON does not know as strings; a strict one refuses them.
-/

namespace StaticSite.Json

open StaticSite.Text

def escapeUnit (n : Nat) : List Char := '\\' :: 'u' :: hex 4 n

/-- The escaped form of one character. -/
def escapeChar (c : Char) : List Char :=
  if c = '"' then ['\\', '"']
  else if c = '\\' then ['\\', '\\']
  else if c = '\n' then ['\\', 'n']
  else if c = '\r' then ['\\', 'r']
  else if c = '\t' then ['\\', 't']
  else if c = '\x08' then ['\\', 'b']
  else if c = '\x0c' then ['\\', 'f']
  else if 32 ≤ c.toNat && c.toNat < 127 then [c]
  else if c.toNat < 0x10000 then escapeUnit c.toNat
  else escapeUnit (0xD800 + (c.toNat - 0x10000) / 0x400)
    ++ escapeUnit (0xDC00 + (c.toNat - 0x10000) % 0x400)

def writeString (s : List Char) : List Char := '"' :: s.flatMap escapeChar ++ ['"']

def writeFloat (x : Float) : List Char := match Double.view x with
  | .notANumber => "NaN".toList
  | .infinite negative => (if negative then "-Infinity" else "Infinity").toList
  | .finite .. => Decimal.floatText x

structure Style where
  /-- Unknown values become strings. -/
  lenient : Bool
  /-- Members are sorted by key. -/
  sorted : Bool
  /-- The text that indents one level, if lines are broken. -/
  indent : Option (List Char)

/-- An integer that is too long to be read is not written either. -/
def writeInt (n : Int) : Except Fault (List Char) :=
  if (Decimal.natText n.natAbs).length > Number.digitLimit then .error .wrongValue
  else .ok (Decimal.intText n)

/-- The text of a key, before it is written as a string. -/
def keyText : Value → Except Fault (List Char)
  | .str s => .ok s.toList
  | .markup s => .ok s.toList
  | .float x => .ok (writeFloat x)
  | .bool b => .ok (if b then "true" else "false").toList
  | .null => .ok "null".toList
  | .int n => writeInt n
  | _ => .error .wrongType

def lineBreak (style : Style) (depth : Nat) : List Char := match style.indent with
  | some unit => '\n' :: (List.replicate depth unit).flatten
  | none => []

def separator (style : Style) (depth : Nat) : List Char := match style.indent with
  | some _ => ',' :: lineBreak style depth
  | none => [',', ' ']

def bracketed (style : Style) (depth : Nat) (opening closing : Char)
    (parts : List (List Char)) : List Char :=
  if parts.isEmpty then [opening, closing]
  else opening :: lineBreak style (depth + 1) ++ joinWith (separator style (depth + 1)) parts
    ++ lineBreak style depth ++ [closing]

/-- Members in the order of the style. -/
def arrange (style : Style) (members : List (Value × List Char)) :
    Except Fault (List (Value × List Char)) :=
  if style.sorted then Value.sortWith (fun a b => Value.lessThan a.1 b.1) members else .ok members

mutual

def write (style : Style) (depth : Nat) : Value → Except Fault (List Char)
  | .null => .ok "null".toList
  | .bool b => .ok (if b then "true" else "false").toList
  | .int n => writeInt n
  | .float x => .ok (writeFloat x)
  | .str s => .ok (writeString s.toList)
  | .markup s => .ok (writeString s.toList)
  | .list items => (writeItems style (depth + 1) items).map (bracketed style depth '[' ']')
  | .tuple items => (writeItems style (depth + 1) items).map (bracketed style depth '[' ']')
  | .mapping entries => do
    let members ← arrange style (← writeMembers style (depth + 1) entries)
    return bracketed style depth '\x7b' '\x7d' (members.map Prod.snd)
  | other => if style.lenient then other.printed.map writeString else .error .wrongType

def writeItems (style : Style) (depth : Nat) : List Value → Except Fault (List (List Char))
  | [] => .ok []
  | item :: rest => do
    let first ← write style depth item
    return first :: (← writeItems style depth rest)

def writeMembers (style : Style) (depth : Nat) :
    List (Value × Value) → Except Fault (List (Value × List Char))
  | [] => .ok []
  | (key, item) :: rest => do
    let name ← keyText key
    let text ← write style depth item
    return (key, writeString name ++ ':' :: ' ' :: text) :: (← writeMembers style depth rest)

end

/-- The form in which a page shows a mapping. -/
def lenientStyle : Style := ⟨true, false, none⟩

/-- The form in which scripts receive data. -/
def scriptStyle (indent : Option (List Char)) : Style := ⟨false, true, indent⟩

/-- Characters that could end a script element or an attribute are written as number escapes. -/
def escapeForScript (s : List Char) : List Char :=
  s.flatMap fun c =>
    if c = '<' || c = '>' || c = '&' || c = '\'' then escapeUnit c.toNat else [c]

/-- A value as a literal inside a script. -/
def scriptLiteral (value : Value) : Except Fault (List Char) :=
  (write (scriptStyle none) 0 value).map escapeForScript

end StaticSite.Json
