import StaticSite.Text.Split

/-!
# Text without its margin

Text that was indented along with what surrounds it: the margin shared by all lines but the first
is taken away, and so are the empty lines at both ends.
-/

namespace StaticSite.Text

/-- The width of a tab. -/
def tabWidth : Nat := 8

/-- The number of spaces in front of a line. -/
def indent (line : List Char) : Nat := (line.takeWhile (· = ' ')).length

/-- The smallest indent of the lines that hold more than spaces. -/
def margin? (lines : List (List Char)) : Option Nat :=
  ((lines.filter fun line => line.any (· ≠ ' ')).map indent).min?

/-- The lines of a text, the first without its indent and the others without their margin. -/
def unindent : List (List Char) → List (List Char)
  | [] => []
  | first :: rest => trimFrontOf (· = ' ') first :: rest.map (·.drop ((margin? rest).getD 0))

/-- Drops the empty lines at both ends. -/
def dropEmptyEnds (lines : List (List Char)) : List (List Char) :=
  ((lines.dropWhile (·.isEmpty)).reverse.dropWhile (·.isEmpty)).reverse

def withoutMargin (s : List Char) : List Char :=
  joinWith ['\n'] (dropEmptyEnds (unindent (splitOn ['\n'] (expandTabs tabWidth s))))

end StaticSite.Text
