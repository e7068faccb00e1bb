import StaticSite.Fault
import StaticSite.Number.Reading
import StaticSite.Text.Quoted

/-!
# Tokens of expressions

An expression is cut into names, numbers, strings and operators; blanks only separate. Brackets
must balance. Where a text cannot be cut, a token stands that is refused when it is met, so that what
comes before it can be refused first. A step takes at least one character, so the length of the text
bounds the number of steps. Escapes that name a character are refused: there is no table of names.
-/

namespace StaticSite.Expression

open StaticSite.Text

inductive Symbol where
  | plus | minus | times | over | floorOver | percent | power | tilde
  | openBracket | closeBracket | openParen | closeParen | openBrace | closeBrace
  | equal | unequal | greater | greaterEqual | less | lessEqual
  | assign | dot | colon | bar | comma | semicolon
  deriving Repr, DecidableEq

inductive Token where
  | name (s : String)
  | text (s : List Char)
  | int (n : Int)
  | float (x : Float)
  | symbol (s : Symbol)
  /-- What is no token, and the fault of meeting it. -/
  | refused (fault : Fault)
  deriving Repr, DecidableEq

/-- The spellings of the symbols, longer ones first. -/
def spellings : List (List Char × Symbol) :=
  [(['/', '/'], .floorOver), (['*', '*'], .power), (['=', '='], .equal), (['!', '='], .unequal),
    (['>', '='], .greaterEqual), (['<', '='], .lessEqual),
    (['+'], .plus), (['-'], .minus), (['/'], .over), (['*'], .times), (['%'], .percent),
    (['~'], .tilde), (['['], .openBracket), ([']'], .closeBracket), (['('], .openParen),
    ([')'], .closeParen), (['\x7b'], .openBrace), (['\x7d'], .closeBrace), (['>'], .greater),
    (['<'], .less), (['='], .assign), (['.'], .dot), ([':'], .colon), (['|'], .bar),
    ([','], .comma), ([';'], .semicolon)]

def symbolFront? (s : List Char) : Option (Symbol × List Char) :=
  spellings.findSome? fun entry => (dropFront? entry.1 s).map fun rest => (entry.2, rest)

def isNameChar (c : Char) : Bool := isWord c || isIdentifierContinue c

/-- A number with a fraction, an exponent, or both; none directly after a point. -/
def floatFront? (s : List Char) : Option (Float × List Char) :=
  let (whole, count, rest) := Number.spanDigits s
  if count = 0 then none
  else
    let (fraction, places, rest) : Nat × Nat × List Char := match rest with
      | '.' :: after =>
        match Number.spanDigits after with
        | (_, 0, _) => (0, 0, rest)
        | found => found
      | _ => (0, 0, rest)
    let mantissa := whole * Number.tenTo places + fraction
    let plain : Option (Float × List Char) :=
      if places = 0 then none else some (Double.ofDecimal false mantissa (-places), rest)
    match rest with
    | c :: _ =>
      if c = 'e' || c = 'E' then
        match Number.exponent? rest with
        | some (e, after) => some (Double.ofDecimal false mantissa (e - places), after)
        | none => plain
      else plain
    | [] => plain

/-- Digits of a base, each after at most one low line. -/
def joinedDigits (isDigitOf : Char → Bool) : List Char → List Char × List Char
  | [] => ([], [])
  | c :: s =>
    if isDigitOf c then
      let (digits, rest) := joinedDigits isDigitOf s
      (c :: digits, rest)
    else match c, s with
      | '_', d :: after =>
        if isDigitOf d then
          let (digits, rest) := joinedDigits isDigitOf after
          (d :: digits, rest)
        else ([], c :: s)
      | _, _ => ([], c :: s)

def natOf (base : Nat) (digits : List Char) : Nat :=
  digits.foldl (fun n c => n * base + (Number.digitIn? base c).getD 0) 0

def isDigitOf (base : Nat) (c : Char) : Bool := (Number.digitIn? base c).isSome

def isAsciiDigitOf (base : Nat) (c : Char) : Bool := isAscii c && isDigitOf base c

/-- A number in an announced base; the base needs a digit. -/
def basedFront? (s : List Char) : Option (Int × List Char) :=
  (Number.announced? s).bind fun found =>
    match joinedDigits (if found.1 = 16 then isDigitOf 16 else isAsciiDigitOf found.1) found.2 with
    | ([], _) => none
    | (digits, rest) => some ((natOf found.1 digits : Int), rest)

/-- An integer: in an announced base, or decimal without a leading zero. -/
def intFront? (s : List Char) : Option (Int × List Char) :=
  match basedFront? s with
  | some found => some found
  | none => match s with
    | '0' :: rest => some (0, (joinedDigits (· == '0') rest).2)
    | c :: _ =>
      if isAsciiDigit c then
        let (digits, rest) := joinedDigits isDecimal s
        some ((natOf 10 digits : Int), rest)
      else none
    | [] => none

/-- The text of a string literal up to its closing quote, escapes unread. -/
def literalFront? (quote : Char) : List Char → Option (List Char × List Char)
  | [] => none
  | '\\' :: c :: s => (literalFront? quote s).map fun r => ('\\' :: c :: r.1, r.2)
  | c :: s =>
    if c = quote then some ([], s)
    else if c = '\\' then none
    else (literalFront? quote s).map fun r => (c :: r.1, r.2)

def letterEscape? (c : Char) : Option Char :=
  if c = '\\' || c = '\'' || c = '"' then some c
  else if c = 'a' then some '\x07'
  else if c = 'b' then some '\x08'
  else if c = 'f' then some '\x0c'
  else if c = 'n' then some '\n'
  else if c = 'r' then some '\r'
  else if c = 't' then some '\t'
  else if c = 'v' then some '\x0b'
  else none

/-- The number of hexadecimal digits an escape letter asks for. -/
def hexWidth? (c : Char) : Option Nat :=
  if c = 'x' then some 2 else if c = 'u' then some 4 else if c = 'U' then some 8 else none

def hexNumber? (digits : List Char) : Option Nat :=
  digits.foldlM (fun n c => (hexValue? c).map fun d => n * 16 + d) 0

def isOctal (c : Char) : Bool := '0' ≤ c && c ≤ '7'

def octalNumber (digits : List Char) : Nat :=
  digits.foldl (fun n c => n * 8 + (c.toNat - 48)) 0

/-- Reads the escapes of a string literal. A character that escapes nothing keeps its
backslash, and one beyond ASCII turns into the letters of its own number escape. -/
def unescape : (fuel : Nat) → List Char → Option (List Char)
  | 0, s => if s.isEmpty then some [] else none
  | _ + 1, [] => some []
  | fuel + 1, '\\' :: c :: s =>
    if c = '\n' then unescape fuel s
    else if isOctal c then
      let digits := (c :: s).take 3 |>.takeWhile isOctal
      (unescape fuel ((c :: s).drop digits.length)).map (Char.ofNat (octalNumber digits) :: ·)
    else if c = 'N' then none
    else match letterEscape? c, hexWidth? c with
      | some e, _ => (unescape fuel s).map (e :: ·)
      | none, some width =>
        if s.length < width then none
        else (hexNumber? (s.take width)).bind fun n =>
          if n > 0x10FFFF then none
          else (unescape fuel (s.drop width)).map ((if Nat.isValidChar n then Char.ofNat n
            else '\uFFFD') :: ·)
      | none, none =>
        if isAscii c then (unescape fuel s).map fun r => '\\' :: c :: r
        else (unescape fuel s).map fun r => numberEscape c ++ r
  | fuel + 1, c :: s => (unescape fuel s).map (c :: ·)

/-- The bracket that closes an opening one. -/
def closerOf? : Symbol → Option Symbol
  | .openBracket => some .closeBracket
  | .openParen => some .closeParen
  | .openBrace => some .closeBrace
  | _ => none

def isCloser (s : Symbol) : Bool := s == .closeBracket || s == .closeParen || s == .closeBrace

/-- The brackets still to be closed after a symbol; none if it closes the wrong one. -/
def balance? (open_ : List Symbol) (s : Symbol) : Option (List Symbol) :=
  match closerOf? s with
  | some closer => some (closer :: open_)
  | none =>
    if isCloser s then
      match open_ with
      | expected :: rest => if expected = s then some rest else none
      | [] => none
    else some open_

/-- The token of a float that has been read from the front of a text, up to a rest. A float is told by
digits of any kind, but it has a value only if they are all ASCII. -/
def floatToken (x : Float) (s rest : List Char) : Token :=
  if (s.take (s.length - rest.length)).all isAscii then .float x else .refused .illFormedProgram

/-- A number, name or string at the front of a text. -/
def wordFront? (afterPoint : Bool) (s : List Char) : Option (Token × List Char) :=
  let float := if afterPoint then none else floatFront? s
  match float, intFront? s with
  | some (x, rest), _ => some (floatToken x s rest, rest)
  | none, some (n, rest) => some (.int n, rest)
  | none, none =>
    match s.takeWhile isNameChar with
    | [] => match s with
      | c :: body =>
        if c = '"' || c = '\'' then
          (literalFront? c body).map fun r =>
            (match unescape (r.1.length + 1) r.1 with
              | some text => .text text
              | none => .refused .malformedExpression, r.2)
        else none
      | [] => none
    | word =>
      some (if isIdentifier word then .name (String.ofList word)
        else .refused .malformedExpression, s.dropWhile isNameChar)

def tokensFrom : (fuel : Nat) → (open_ : List Symbol) → (afterPoint : Bool) → List Char →
    List Token
  | _, _, _, [] => []
  | 0, _, _, _ => [.refused .malformedExpression]
  | fuel + 1, open_, afterPoint, c :: s =>
    if isBlank c then tokensFrom fuel open_ false s
    else match wordFront? afterPoint (c :: s) with
      | some (word, rest) => word :: tokensFrom fuel open_ false rest
      | none =>
        match symbolFront? (c :: s) with
        | none => [.refused .malformedExpression]
        | some (symbol, rest) =>
          match balance? open_ symbol with
          | none => [.refused .malformedExpression]
          | some still => .symbol symbol :: tokensFrom fuel still (symbol == .dot) rest

/-- Line ends are unified and one at the end is dropped before an expression is read. -/
def sourceLines (s : List Char) : List Char :=
  let lines := normalizeLines s
  if lines.getLast? = some '\n' then lines.dropLast else lines

/-- The tokens of an expression text. -/
def tokens (s : List Char) : List Token :=
  let source := sourceLines s
  tokensFrom (source.length + 1) [] false source

end StaticSite.Expression
