import StaticSite.Text.Search

/-!
# Cutting a text into pieces

Pieces between blanks, between line ends and between occurrences of a mark, from the front or from
the back and up to a limit.
-/

namespace StaticSite.Text

/-- Characters that end a line; a carriage return and a line feed together end one line. -/
def isLineEnd (c : Char) : Bool :=
  (10 ≤ c.toNat && c.toNat ≤ 13) || (28 ≤ c.toNat && c.toNat ≤ 30) || c.toNat == 0x85
    || c.toNat == 0x2028 || c.toNat == 0x2029

/-- The lines of a text, with their ends if asked for; `line` collects, in reverse, the line under
way. A line end at the end of the text starts no further line. -/
def linesFrom (keep : Bool) (line : List Char) : List Char → List (List Char)
  | [] => if line.isEmpty then [] else [line.reverse]
  | '\r' :: '\n' :: s => (line.reverse ++ if keep then ['\r', '\n'] else []) :: linesFrom keep [] s
  | c :: s =>
    if isLineEnd c then (line.reverse ++ if keep then [c] else []) :: linesFrom keep [] s
    else linesFrom keep (c :: line) s

def lines (s : List Char) : List (List Char) := linesFrom false [] s

/-- Words between blanks, at most `limit` cuts; the rest of the text is the last piece. -/
def wordsUpTo : (limit : Nat) → List Char → List (List Char)
  | 0, s => match trimFrontOf isBlank s with
    | [] => []
    | rest => [rest]
  | limit + 1, s => match trimFrontOf isBlank s with
    | [] => []
    | rest =>
      rest.takeWhile (!isBlank ·) :: wordsUpTo limit (rest.dropWhile (!isBlank ·))

def reversePieces (pieces : List (List Char)) : List (List Char) :=
  (pieces.map List.reverse).reverse

/-- Words between blanks, cut from the back. -/
def wordsFromEnd (limit : Nat) (s : List Char) : List (List Char) :=
  reversePieces (wordsUpTo limit s.reverse)

def splitUpTo (limit : Nat) (mark s : List Char) : List (List Char) := splitFrom mark limit 0 [] s

/-- Pieces between occurrences of a mark, cut from the back. -/
def splitFromEnd (limit : Nat) (mark s : List Char) : List (List Char) :=
  reversePieces (splitFrom mark.reverse limit 0 [] s.reverse)

/-- Replaces tabs by blanks up to the next column that is a multiple of `size`. -/
def expandTabsFrom (size column : Nat) : List Char → List Char
  | [] => []
  | c :: s =>
    if c = '\t' then
      let width := if size = 0 then 0 else size - column % size
      List.replicate width ' ' ++ expandTabsFrom size (column + width) s
    else c :: expandTabsFrom size (if c = '\n' || c = '\r' then 0 else column + 1) s

def expandTabs (size : Nat) (s : List Char) : List Char := expandTabsFrom size 0 s

/-- Blanks on both sides up to a width; an odd one goes to the left if the width is odd. -/
def center (width : Nat) (c : Char) (s : List Char) : List Char :=
  let space := width - s.length
  let left := space / 2 + (if space % 2 = 1 && width % 2 = 1 then 1 else 0)
  List.replicate left c ++ s ++ List.replicate (space - left) c

/-- Zeros between the sign and the rest of a text. -/
def zeroFill (width : Nat) (s : List Char) : List Char := match s with
  | c :: rest => if c = '+' || c = '-' then c :: padLeft (width - 1) '0' rest else padLeft width '0' s
  | [] => padLeft width '0' s

end StaticSite.Text
