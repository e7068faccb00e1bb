import StaticSite.Template.Engine

/-!
# The grammar of templates

A template is a tree: a sequence of texts, placeholders, loops and conditionals, where the branches
of a conditional are templates again. `Tree.print` writes a tree as text and `Tree.meaning` says
what the tree stands for in a scope, by recursion on the tree and without any text.

Texts, paths, conditions and loop headers carry the proof that no marker is hidden in them.
-/

namespace StaticSite.Template

open StaticSite.Text

/-- Text in which no marker begins. -/
structure PlainText where
  chars : List Char
  unmarked : '@' ∉ chars

structure PathText where
  chars : List Char
  nonempty : chars ≠ []
  closed : ']' ∉ chars
  oneLine : '\n' ∉ chars
  unmarked : '@' ∉ chars

structure ConditionText where
  chars : List Char
  closed : ')' ∉ chars
  unmarked : '@' ∉ chars

/-- What stands between the brackets of a loop: a word, and what the loop goes over. -/
structure LoopHeader where
  name : List Char
  collection : List Char
  named : name ≠ []
  word : ∀ c ∈ name, isWord c = true
  starts : ∃ c rest, collection = c :: rest ∧ isBlank c = false
  closed : ')' ∉ collection
  oneLine : '\n' ∉ collection
  unmarked : '@' ∉ collection

/-- The parts of a loop's body. -/
inductive Leaf where
  | text (s : PlainText)
  | placeholder (path : PathText)

/-- The parts of a template without conditionals. -/
inductive Simple where
  | leaf (part : Leaf)
  | loop (header : LoopHeader) (body : List Leaf)

inductive Tree where
  | done
  | simple (part : Simple) (rest : Tree)
  | conditional (condition : ConditionText) (whenTrue : Tree) (rest : Tree)
  | choice (condition : ConditionText) (whenTrue whenFalse : Tree) (rest : Tree)

/-! ### Printing -/

def Leaf.print : Leaf → List Char
  | .text s => s.chars
  | .placeholder path => placeholderOpening ++ path.chars ++ [']']

def printLeaves (leaves : List Leaf) : List Char := leaves.flatMap Leaf.print

def LoopHeader.print (header : LoopHeader) : List Char :=
  eachOpening ++ header.name ++ [' ', 'i', 'n', ' '] ++ header.collection ++ [')']

def Simple.print : Simple → List Char
  | .leaf part => part.print
  | .loop header body => header.print ++ printLeaves body ++ eachClosing

def printParts (parts : List Simple) : List Char := parts.flatMap Simple.print

def Tree.print : Tree → List Char
  | .done => []
  | .simple part rest => part.print ++ rest.print
  | .conditional condition whenTrue rest =>
    ifOpening ++ condition.chars ++ [')'] ++ whenTrue.print ++ ifClosing ++ rest.print
  | .choice condition whenTrue whenFalse rest =>
    ifOpening ++ condition.chars ++ [')'] ++ whenTrue.print ++ elseMarker ++ whenFalse.print
      ++ ifClosing ++ rest.print

/-- Whether `@end` in front of a text would be read as the start of `@endif`. -/
def joinsEnd (s : List Char) : Bool := startsWith ['i', 'f'] s

/-- No loop is followed directly by text that would turn its `@end` into `@endif`. -/
def Tree.EndsApart : Tree → Prop
  | .done => True
  | .simple (.leaf _) rest => rest.EndsApart
  | .simple (.loop ..) rest => joinsEnd rest.print = false ∧ rest.EndsApart
  | .conditional _ whenTrue rest => whenTrue.EndsApart ∧ rest.EndsApart
  | .choice _ whenTrue whenFalse rest =>
    whenTrue.EndsApart ∧ whenFalse.EndsApart ∧ rest.EndsApart

/-! ### Meaning

A meaning is missing where an evaluation ends in a fault that templates do not survive, or where a
value cannot be written.
-/

/-- One text after another, if there are both. -/
def joined (first second : Option (List Char)) : Option (List Char) :=
  first.bind fun front => second.map (front ++ ·)

/-- The texts of all items, one after the other. -/
def concat {α : Type} (text : α → Option (List Char)) : List α → Option (List Char)
  | [] => some []
  | item :: rest => joined (text item) (concat text rest)

@[simp] theorem joined_none (second : Option (List Char)) : joined none second = none := rfl

@[simp] theorem joined_none_right (first : Option (List Char)) : joined first none = none := by
  cases first <;> rfl

@[simp] theorem joined_some (front : List Char) (second : Option (List Char)) :
    joined (some front) second = second.map (front ++ ·) := rfl

theorem joined_eq_some_iff {first second : Option (List Char)} {text : List Char} :
    joined first second = some text
      ↔ ∃ front back, first = some front ∧ second = some back ∧ text = front ++ back := by
  cases first <;> cases second <;> simp [eq_comm]

theorem joined_assoc (first second third : Option (List Char)) :
    joined (joined first second) third = joined first (joined second third) := by
  cases first <;> cases second <;> cases third <;> simp

/-- Whether a condition holds: blanks around it do not count, and one that fails is false. -/
def truth? (evaluate : Evaluator) (scope : Scope) (condition : List Char) : Option Bool :=
  match evaluate (trim condition) scope with
  | .ok value => some value.isTrue
  | .error fault => if fault.isEvaluation then some false else none

/-- What a loop goes over: nothing where the collection fails or is no sequence. -/
def items? (evaluate : Evaluator) (scope : Scope) (collection : List Char) :
    Option (List Value) :=
  match evaluate collection scope with
  | .ok (.list items) | .ok (.tuple items) => some items
  | .ok _ => some []
  | .error fault => if fault.isEvaluation then some [] else none

def Leaf.meaning (mode : PlaceholderMode) (scope : Scope) : Leaf → Option (List Char)
  | .text s => some s.chars
  | .placeholder path =>
    match resolvePath scope path.chars with
    | .ok (some value) => (stringify value).toOption
    | .ok none => match mode with
      | .silent => some []
      | .strict => some (unresolvedMark path.chars)
    | .error _ => none

/-- The body of a loop once per element, the element bound over the names of the scope. -/
def loopMeaning (evaluate : Evaluator) (mode : PlaceholderMode) (scope : Scope)
    (header : LoopHeader) (body : List Leaf) : Option (List Char) := do
  let items ← items? evaluate scope header.collection
  concat (fun item => concat (Leaf.meaning mode (bind scope header.name item)) body) items

/-- The text of a tree, where `leafText` says what a leaf outside of loops becomes. -/
def Tree.textWith (evaluate : Evaluator) (mode : PlaceholderMode) (scope : Scope)
    (leafText : Leaf → Option (List Char)) : Tree → Option (List Char)
  | .done => some []
  | .simple (.leaf leaf) rest =>
    joined (leafText leaf) (rest.textWith evaluate mode scope leafText)
  | .simple (.loop header body) rest =>
    joined (loopMeaning evaluate mode scope header body)
      (rest.textWith evaluate mode scope leafText)
  | .conditional condition whenTrue rest =>
    joined
      ((truth? evaluate scope condition.chars).bind fun taken =>
        if taken then whenTrue.textWith evaluate mode scope leafText else some [])
      (rest.textWith evaluate mode scope leafText)
  | .choice condition whenTrue whenFalse rest =>
    joined
      ((truth? evaluate scope condition.chars).bind fun taken =>
        if taken then whenTrue.textWith evaluate mode scope leafText
        else whenFalse.textWith evaluate mode scope leafText)
      (rest.textWith evaluate mode scope leafText)

/-- What a template stands for in a scope. -/
def Tree.meaning (evaluate : Evaluator) (mode : PlaceholderMode) (scope : Scope) (tree : Tree) :
    Option (List Char) :=
  tree.textWith evaluate mode scope (Leaf.meaning mode scope)

/-- The text of a template whose placeholders outside of loops have not been filled yet. -/
def Tree.unfilled (evaluate : Evaluator) (mode : PlaceholderMode) (scope : Scope) (tree : Tree) :
    Option (List Char) :=
  tree.textWith evaluate mode scope fun leaf => some leaf.print

/-- No loop that is reached writes a character that can begin a placeholder. -/
def Tree.LoopsInert (evaluate : Evaluator) (mode : PlaceholderMode) (scope : Scope) : Tree → Prop
  | .done => True
  | .simple (.leaf _) rest => rest.LoopsInert evaluate mode scope
  | .simple (.loop header body) rest =>
    (∀ text, loopMeaning evaluate mode scope header body = some text → '@' ∉ text)
      ∧ rest.LoopsInert evaluate mode scope
  | .conditional condition whenTrue rest =>
    (truth? evaluate scope condition.chars = some true →
      whenTrue.LoopsInert evaluate mode scope) ∧ rest.LoopsInert evaluate mode scope
  | .choice condition whenTrue whenFalse rest =>
    (truth? evaluate scope condition.chars = some true →
      whenTrue.LoopsInert evaluate mode scope)
      ∧ (truth? evaluate scope condition.chars = some false →
        whenFalse.LoopsInert evaluate mode scope)
      ∧ rest.LoopsInert evaluate mode scope

end StaticSite.Template
