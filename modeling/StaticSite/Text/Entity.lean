import StaticSite.Text.Class
import StaticSite.Text.Search

/-!
# Character references

A reference is `&name;`, `&#10;` or `&#x0a;`. The references of code points count in either base,
the names are the ones that markup written by hand uses.
-/

namespace StaticSite.Text

def namedReferences : List (String × Nat) :=
  [("amp", 38), ("lt", 60), ("gt", 62), ("quot", 34), ("apos", 39), ("nbsp", 160),
    ("iexcl", 161), ("cent", 162), ("pound", 163), ("curren", 164), ("yen", 165), ("brvbar", 166),
    ("sect", 167), ("uml", 168), ("copy", 169), ("ordf", 170), ("laquo", 171), ("not", 172),
    ("shy", 173), ("reg", 174), ("macr", 175), ("deg", 176), ("plusmn", 177), ("acute", 180),
    ("micro", 181), ("para", 182), ("middot", 183), ("cedil", 184), ("ordm", 186), ("raquo", 187),
    ("frac14", 188), ("frac12", 189), ("frac34", 190), ("iquest", 191), ("Agrave", 192),
    ("Aacute", 193), ("Acirc", 194), ("Atilde", 195), ("Auml", 196), ("Aring", 197),
    ("AElig", 198), ("Ccedil", 199), ("Egrave", 200), ("Eacute", 201), ("Ouml", 214),
    ("times", 215), ("Oslash", 216), ("Uuml", 220), ("szlig", 223), ("agrave", 224),
    ("aacute", 225), ("acirc", 226), ("atilde", 227), ("auml", 228), ("aring", 229),
    ("aelig", 230), ("ccedil", 231), ("egrave", 232), ("eacute", 233), ("ecirc", 234),
    ("euml", 235), ("iacute", 237), ("ntilde", 241), ("oacute", 243), ("ocirc", 244),
    ("ouml", 246), ("divide", 247), ("oslash", 248), ("ugrave", 249), ("uacute", 250),
    ("uuml", 252), ("ndash", 8211), ("mdash", 8212), ("lsquo", 8216), ("rsquo", 8217),
    ("ldquo", 8220), ("rdquo", 8221), ("bull", 8226), ("hellip", 8230), ("euro", 8364),
    ("trade", 8482), ("larr", 8592), ("uarr", 8593), ("rarr", 8594), ("darr", 8595),
    ("le", 8804), ("ge", 8805), ("ne", 8800), ("infin", 8734)]

/-- The character of a code point; what is no character is replaced. -/
def referenced (code : Nat) : List Char :=
  if code = 0 || (0xD800 ≤ code && code < 0xE000) || code > 0x10FFFF then ['\uFFFD']
  else [Char.ofNat code]

def skipSemicolon : List Char → List Char
  | ';' :: s => s
  | s => s

/-- The characters of a reference whose `&` has been read, and what follows it. -/
def referenceFront? (s : List Char) : Option (List Char × List Char) :=
  match s with
  | '#' :: c :: rest =>
    if c = 'x' || c = 'X' then match rest.takeWhile fun d => (hexValue? d).isSome with
      | [] => none
      | digits =>
        some (referenced (digits.foldl (fun n d => n * 16 + (hexValue? d).getD 0) 0),
          skipSemicolon (rest.drop digits.length))
    else match (c :: rest).takeWhile isAsciiDigit with
      | [] => none
      | digits =>
        some (referenced (digits.foldl (fun n d => n * 10 + (d.toNat - 48)) 0),
          skipSemicolon ((c :: rest).drop digits.length))
  | _ =>
    let name := s.takeWhile fun c => isAsciiDigit c || isAsciiLower c || isAsciiUpper c
    match namedReferences.lookup (String.ofList name), s.drop name.length with
    | some code, ';' :: rest => some (referenced code, rest)
    | _, _ => none

/-- Replaces the references of a text. -/
def unescapeFrom : (fuel : Nat) → List Char → List Char
  | 0, s => s
  | _ + 1, [] => []
  | fuel + 1, c :: s =>
    if c = '&' then match referenceFront? s with
      | some (read, rest) => read ++ unescapeFrom fuel rest
      | none => c :: unescapeFrom fuel s
    else c :: unescapeFrom fuel s

def unescape (s : List Char) : List Char := unescapeFrom s.length s

/-- Removes the stretches from `opening` to the next `closing`, which may overlap it, again and
again from the front. -/
def removeBetween (opening closing : List Char) (overlap : Nat) :
    (fuel : Nat) → List Char → List Char
  | 0, s => s
  | fuel + 1, s => match cutAt? opening s with
    | none => s
    | some (before, after) =>
      match cutAt? closing (opening.drop (opening.length - overlap) ++ after) with
      | none => s
      | some (_, rest) => removeBetween opening closing overlap fuel (before ++ rest)

/-- The text of a markup: no comments, no tags, single spaces, references replaced. -/
def textOfMarkup (s : List Char) : List Char :=
  let s := removeBetween ['<', '!', '-', '-'] ['-', '-', '>'] 2 s.length s
  let s := removeBetween ['<'] ['>'] 0 s.length s
  unescape (joinWith [' '] (words s))

end StaticSite.Text
