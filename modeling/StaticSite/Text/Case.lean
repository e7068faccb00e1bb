import StaticSite.Text.CaseTable
import StaticSite.Text.Class

/-!
# Letter case

Full case mappings: a character may map to several (`ß` in upper case is `SS`), and a capital
sigma at the end of a word has a small form of its own.
-/

namespace StaticSite.Text

/-- The code point a run table gives for `code`, if a run covers it. -/
def runTarget? (runs : Array CaseTable.Run) (code : Nat) : Option Nat :=
  (runs.find? fun run => run.first ≤ code && code ≤ run.last && (code - run.first) % run.step == 0).map
    fun run => ((code : Int) + run.shift).toNat

/-- The listed expansion of `code`. -/
def listed? (table : Array (Nat × List Nat)) (code : Nat) : Option (List Char) :=
  (table.find? fun entry => entry.1 == code).map fun entry => entry.2.map Char.ofNat

def upperChar (c : Char) : List Char :=
  if isAscii c then [if isAsciiLower c then Char.ofNat (c.toNat - 32) else c]
  else match listed? CaseTable.upperLong c.toNat with
    | some chars => chars
    | none => [((runTarget? CaseTable.upperRuns c.toNat).map Char.ofNat).getD c]

def lowerChar (c : Char) : List Char :=
  if isAscii c then [if isAsciiUpper c then Char.ofNat (c.toNat + 32) else c]
  else match listed? CaseTable.lowerLong c.toNat with
    | some chars => chars
    | none => [((runTarget? CaseTable.lowerRuns c.toNat).map Char.ofNat).getD c]

def titleChar (c : Char) : List Char :=
  (listed? CaseTable.titleExceptions c.toNat).getD (upperChar c)

def foldChar (c : Char) : List Char :=
  (listed? CaseTable.foldExceptions c.toNat).getD (lowerChar c)

def inSteps (table : Array (Nat × Nat × Nat)) (c : Char) : Bool :=
  table.any fun entry =>
    entry.1 ≤ c.toNat && c.toNat ≤ entry.2.1 && (c.toNat - entry.1) % entry.2.2 == 0

def isUpperChar (c : Char) : Bool :=
  if isAscii c then isAsciiUpper c else inSteps CaseTable.upperCaseSteps c

def isLowerChar (c : Char) : Bool :=
  if isAscii c then isAsciiLower c else inSteps CaseTable.lowerCaseSteps c

def isTitleChar (c : Char) : Bool :=
  if isAscii c then false else inRanges CaseTable.titleCase c

def isCased (c : Char) : Bool := isUpperChar c || isLowerChar c || isTitleChar c

/-- Marks that stand inside a word without ending it. -/
def isCaseIgnorable (c : Char) : Bool :=
  if isAscii c then c == '\'' || c == '.' || c == ':' || c == '^' || c == (Char.ofNat 96)
  else inRanges CaseTable.caseIgnorable c

/-- Whether a cased character comes next, marks apart. -/
def wordGoesOn : List Char → Bool
  | [] => false
  | c :: rest => if isCaseIgnorable c then wordGoesOn rest else isCased c

/-- Whether a cased character precedes the place after `c`, marks apart. -/
def wordSoFar (before : Bool) (c : Char) : Bool := if isCaseIgnorable c then before else isCased c

/-- The small form of `c` between a word begun or not and the text that follows. -/
def lowerWithin (before : Bool) (c : Char) (after : List Char) : List Char :=
  if c == 'Σ' then [if before && !wordGoesOn after then 'ς' else 'σ'] else lowerChar c

def lowerFrom (before : Bool) : List Char → List Char
  | [] => []
  | c :: rest => lowerWithin before c rest ++ lowerFrom (wordSoFar before c) rest

def lower (s : List Char) : List Char := lowerFrom false s

def upper (s : List Char) : List Char := s.flatMap upperChar

def fold (s : List Char) : List Char := s.flatMap foldChar

/-- The first character in title case, the others small. -/
def capitalize : List Char → List Char
  | [] => []
  | c :: rest => titleChar c ++ lowerFrom (wordSoFar false c) rest

def titleFrom (afterCased before : Bool) : List Char → List Char
  | [] => []
  | c :: rest =>
    (if afterCased then lowerWithin before c rest else titleChar c)
      ++ titleFrom (isCased c) (wordSoFar before c) rest

/-- Each run of cased characters starts in title case and goes on small. -/
def titleCase (s : List Char) : List Char := titleFrom false false s

def swapFrom (before : Bool) : List Char → List Char
  | [] => []
  | c :: rest =>
    (if isUpperChar c then lowerWithin before c rest
      else if isLowerChar c then upperChar c else [c])
      ++ swapFrom (wordSoFar before c) rest

def swapCase (s : List Char) : List Char := swapFrom false s

/-- Some character is in upper case and none in another case. -/
def isUpper (s : List Char) : Bool :=
  s.any isUpperChar && !s.any fun c => isLowerChar c || isTitleChar c

def isLower (s : List Char) : Bool :=
  s.any isLowerChar && !s.any fun c => isUpperChar c || isTitleChar c

def isTitleFrom (afterCased seen : Bool) : List Char → Bool
  | [] => seen
  | c :: rest =>
    if isUpperChar c || isTitleChar c then
      if afterCased then false else isTitleFrom true true rest
    else if isLowerChar c then
      if afterCased then isTitleFrom true true rest else false
    else isTitleFrom false seen rest

def isTitle (s : List Char) : Bool := isTitleFrom false false s

end StaticSite.Text
