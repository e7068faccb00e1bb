import StaticSite.Operation.Argument
import StaticSite.Operation.Member

/-!
# Texts with fields in braces

A field is a name or a number in braces, possibly followed by members and items, a conversion
(`!r`) and a layout (`:>8.2f`). Doubled braces stand for themselves. Members and items are reached
under the same rules as in expressions.
-/

namespace StaticSite.Operation

open StaticSite.Text StaticSite.Value

def openBrace : Char := '\x7b'

def closeBrace : Char := '\x7d'

/-- How a value is laid out in its field. -/
structure Layout where
  fill : Char
  align : Option Char
  sign : Option Char
  alternate : Bool
  width : Nat
  grouping : Option Char
  precision : Option Nat
  kind : Option Char

def isAlign (c : Char) : Bool := c = '<' || c = '>' || c = '^' || c = '='

/-- The fill and alignment at the front of a layout. -/
def alignFront : List Char → Char × Option Char × List Char
  | c :: d :: s =>
    if isAlign d then (c, some d, s)
    else if isAlign c then (' ', some c, d :: s)
    else (' ', none, c :: d :: s)
  | [c] => if isAlign c then (' ', some c, []) else (' ', none, [c])
  | [] => (' ', none, [])

def layout? (s : List Char) : Option Layout :=
  let (fill, align, s) := alignFront s
  let (sign, s) := match s with
    | c :: rest => if c = '+' || c = '-' || c = ' ' then (some c, rest) else (none, s)
    | [] => (none, s)
  let (alternate, s) := match s with
    | '#' :: rest => (true, rest)
    | _ => (false, s)
  let (fill, align, s) := match s with
    | '0' :: rest => if align.isNone then ('0', some '=', rest) else (fill, align, s)
    | _ => (fill, align, s)
  let width := digitsValue (s.takeWhile isAsciiDigit)
  let s := s.dropWhile isAsciiDigit
  let (grouping, s) := match s with
    | c :: rest => if c = ',' || c = '_' then (some c, rest) else (none, s)
    | [] => (none, s)
  let finish (precision : Option Nat) (s : List Char) : Option Layout := match s with
    | [] => some ⟨fill, align, sign, alternate, width, grouping, precision, none⟩
    | [c] => some ⟨fill, align, sign, alternate, width, grouping, precision, some c⟩
    | _ => none
  match s with
  | '.' :: rest =>
    match rest.takeWhile isAsciiDigit with
    | [] => none
    | digits => finish (some (digitsValue digits)) (rest.dropWhile isAsciiDigit)
  | _ => finish none s

/-- Puts a sign and a body into a field. -/
def Layout.place (layout : Layout) (natural : Char) (sign body : List Char) : List Char :=
  let text := sign ++ body
  let space := layout.width - text.length
  let blanks := List.replicate space layout.fill
  match layout.align.getD natural with
  | '<' => text ++ blanks
  | '^' => List.replicate (space / 2) layout.fill ++ text
      ++ List.replicate (space - space / 2) layout.fill
  | '=' => sign ++ blanks ++ body
  | _ => blanks ++ text

/-- Digits with a mark between groups, counted from the back. -/
def grouped (size : Nat) (mark : Char) (digits : List Char) : List Char :=
  (go 0 digits.reverse).reverse
where
  go (count : Nat) : List Char → List Char
    | [] => []
    | c :: rest =>
      if count = size then mark :: c :: go 1 rest else c :: go (count + 1) rest

def Layout.signText (layout : Layout) (negative : Bool) : List Char :=
  if negative then ['-'] else match layout.sign with
    | some '+' => ['+']
    | some ' ' => [' ']
    | _ => []

def Layout.group (layout : Layout) (size : Nat) (digits : List Char) : List Char :=
  match layout.grouping with
  | some mark => grouped size mark digits
  | none => digits

def binaryDigits (n : Nat) : List Char := Nat.toDigits 2 n

def Layout.float (layout : Layout) (x : Float) : Except Fault (List Char) := do
  let kind := layout.kind.getD 'r'
  unless ['r', 'e', 'E', 'f', 'F', 'g', 'G', 'n', '%'].elem kind do .error .wrongValue
  let body := match Double.view x with
    | .finite .. =>
      if kind = 'r' then match layout.precision with
        | none => Decimal.floatText x.abs
        | some p =>
          let text := Decimal.generalText x p
          if text.all isAsciiDigit then text ++ ['.', '0'] else text
      else if kind = '%' then
        Decimal.fixedText (x * 100) (layout.precision.getD 6) ++ ['%']
      else floatBody (if kind = 'n' then 'g' else kind) (layout.precision.getD 6) x
    | _ => floatBody 'f' 6 x
  let body := if isAsciiUpper kind then upperAscii body else body
  let whole := body.takeWhile isAsciiDigit
  return layout.place '>' (layout.signText (Double.isNegative x))
    (layout.group 3 whole ++ body.drop whole.length)

def Layout.int (layout : Layout) (n : Int) : Except Fault (List Char) := do
  let kind := layout.kind.getD 'd'
  if ['e', 'E', 'f', 'F', 'g', 'G', '%'].elem kind then layout.float (← floatOfInt n)
  else if layout.precision.isSome then .error .wrongValue
  else
    let sign := layout.signText (n < 0)
    let announced (mark : Char) : List Char := if layout.alternate then ['0', mark] else []
    if kind = 'd' || kind = 'n' then
      return layout.place '>' sign (layout.group 3 (Decimal.natText n.natAbs))
    else if kind = 'b' then
      return layout.place '>' (sign ++ announced 'b') (layout.group 4 (binaryDigits n.natAbs))
    else if kind = 'o' then
      return layout.place '>' (sign ++ announced 'o') (layout.group 4 (Nat.toDigits 8 n.natAbs))
    else if kind = 'x' then
      return layout.place '>' (sign ++ announced 'x') (layout.group 4 (Nat.toDigits 16 n.natAbs))
    else if kind = 'X' then
      return layout.place '>' (sign ++ announced 'X')
        (layout.group 4 (upperAscii (Nat.toDigits 16 n.natAbs)))
    else if kind = 'c' then
      if n < 0 || n > 0x10FFFF then .error .overflow
      else return layout.place '<' [] [Char.ofNat n.toNat]
    else .error .wrongValue

def Layout.text (layout : Layout) (s : List Char) : Except Fault (List Char) :=
  if layout.sign.isSome || layout.alternate || layout.grouping.isSome || layout.align = some '='
    || !(layout.kind = none || layout.kind = some 's') then .error .wrongValue
  else .ok (layout.place '<' [] (match layout.precision with
    | some p => s.take p
    | none => s))

/-- A value under a layout text; an empty one gives the plain text. -/
def layOut (value : Value) (spec : List Char) : Except Fault (List Char) :=
  if spec.isEmpty then .ok value.plain
  else match value with
    | .undefined _ | .null | .list _ | .tuple _ | .mapping _ => .error .wrongType
    | _ => match layout? spec, value with
      | none, _ => .error .wrongValue
      | some layout, .float x => layout.float x
      | some layout, .str s | some layout, .markup s => layout.text s.toList
      | some layout, value => match value.int? with
        | some n => layout.int n
        | none => .error .wrongType

/-- A step from a value to a part of it. -/
inductive FieldStep where
  | member (name : String)
  | item (index : Value)

def fieldIndex (s : List Char) : Value :=
  if !s.isEmpty && s.all isAsciiDigit then .int (digitsValue s) else .ofString s

/-- The steps after the first name of a field. -/
def fieldSteps? : (fuel : Nat) → List Char → Option (List FieldStep)
  | 0, _ => none
  | _ + 1, [] => some []
  | fuel + 1, '.' :: s =>
    let name := s.takeWhile fun c => c ≠ '.' && c ≠ '['
    if name.isEmpty then none
    else (fieldSteps? fuel (s.drop name.length)).map (.member (String.ofList name) :: ·)
  | fuel + 1, '[' :: s =>
    (cutAt? [']'] s).bind fun cut =>
      if cut.1.isEmpty then none
      else (fieldSteps? fuel cut.2).map (.item (fieldIndex cut.1) :: ·)
  | _ + 1, _ => none

def takeStep (value : Value) : FieldStep → Except Fault Value
  | .member name => member value name
  | .item index => item value index

/-- How fields without a name have been counted so far. -/
inductive Numbering where
  | unused
  | automatic (next : Nat)
  | byNumber
  deriving DecidableEq

/-- The value of a field. -/
def fieldValue (actuals : Actuals) (numbering : Numbering) (field : List Char) :
    Except Fault (Value × Numbering) := do
  let first := field.takeWhile fun c => c ≠ '.' && c ≠ '['
  let positional (n : Nat) : Except Fault Value := match actuals.positional[n]? with
    | some value => .ok value
    | none => .error .missingIndex
  let (value, numbering) ←
    if first.isEmpty then match numbering with
      | .unused => do pure (← positional 0, Numbering.automatic 1)
      | .automatic n => do pure (← positional n, Numbering.automatic (n + 1))
      | .byNumber => .error .wrongValue
    else if first.all isAsciiDigit then match numbering with
      | .automatic _ => .error .wrongValue
      | _ => do pure (← positional (digitsValue first), Numbering.byNumber)
    else match actuals.named.lookup (String.ofList first) with
      | some value => pure (value, numbering)
      | none => .error .missingKey
  match fieldSteps? (field.length + 1) (field.drop first.length) with
  | none => .error .wrongValue
  | some steps => return (← steps.foldlM takeStep value, numbering)

/-- Splits the inside of a pair of braces off; inner braces nest. -/
def insideBraces (depth : Nat) : List Char → Option (List Char × List Char)
  | [] => none
  | c :: s =>
    if c = closeBrace then
      match depth with
      | 0 => some ([], s)
      | depth + 1 => (insideBraces depth s).map fun r => (c :: r.1, r.2)
    else (insideBraces (if c = openBrace then depth + 1 else depth) s).map fun r => (c :: r.1, r.2)

/-- A field's name, conversion and layout. -/
def fieldParts? (inside : List Char) : Option (List Char × Option Char × List Char) :=
  let name := inside.takeWhile fun c => c ≠ '!' && c ≠ ':'
  if name.elem openBrace then none
  else match inside.drop name.length with
    | [] => some (name, none, [])
    | ':' :: spec => some (name, none, spec)
    | ['!', c] => some (name, some c, [])
    | '!' :: c :: ':' :: spec => some (name, some c, spec)
    | _ => none

def convertField (conversion : Option Char) (value : Value) : Except Fault Value :=
  match conversion with
  | none => .ok value
  | some 's' => .ok (.ofString value.plain)
  | some 'r' => .ok (.ofString value.quoted)
  | some 'a' => .ok (.ofString (asciiQuoted value.quoted))
  | some _ => .error .wrongValue

/-- Fills the fields of a text; layouts may hold fields themselves, `nesting` levels deep. -/
def fillFields (escape : Bool) (actuals : Actuals) : (fuel nesting : Nat) → Numbering →
    List Char → Except Fault (List Char × Numbering)
  | 0, _, _, _ => .error .wrongValue
  | _ + 1, _, numbering, [] => .ok ([], numbering)
  | fuel + 1, nesting, numbering, c :: s => do
    let plainly (c : Char) (s : List Char) : Except Fault (List Char × Numbering) := do
      let (rest, numbering) ← fillFields escape actuals fuel nesting numbering s
      return (c :: rest, numbering)
    if c = closeBrace then
      match s with
      | d :: rest => if d = closeBrace then plainly c rest else .error .wrongValue
      | [] => .error .wrongValue
    else if c = openBrace then
      if s.head? = some openBrace then plainly c s.tail
      else match insideBraces 0 s with
        | none => .error .wrongValue
        | some (inside, rest) => match fieldParts? inside with
          | none => .error .wrongValue
          | some (name, conversion, spec) =>
            let (value, numbering) ← fieldValue actuals numbering name
            let value ← convertField conversion value
            let (spec, numbering) ← match nesting with
              | 0 => if spec.isEmpty then pure ([], numbering) else .error .wrongValue
              | nesting + 1 => fillFields false actuals fuel nesting numbering spec
            let text ← match escape, value with
              | true, .markup s => pure s.toList
              | true, value => do pure (escaped (← layOut value spec))
              | false, value => layOut value spec
            let (tail, numbering) ← fillFields escape actuals fuel nesting numbering rest
            return (text ++ tail, numbering)
    else plainly c s

/-- A text with its fields filled. -/
def formatFields (escape : Bool) (s : List Char) (actuals : Actuals) : Except Fault (List Char) :=
  (fillFields escape actuals (s.length + 1) 2 .unused s).map Prod.fst

end StaticSite.Operation
