import StaticSite.Json.Writer
import StaticSite.Number.Reading
import StaticSite.Text.Scanner
import StaticSite.Value.Mapping

/-!
# Placeholders

`@[path]` stands for the value that a dotted path reaches in the scope. Mappings are indexed by
key and sequences by number; a path that leads nowhere leaves nothing behind, or a visible mark
where the site asks for it.
-/

namespace StaticSite.Template

open StaticSite.Text

/-- What stands in for a path that leads nowhere. -/
inductive PlaceholderMode where
  | silent
  | strict
  deriving Repr, DecidableEq

/-- One step of a path. Digits index a sequence; digits that write no decimal number are a
fault. -/
def child? (current : Value) (segment : List Char) : Except Fault (Option Value) :=
  match current with
  | .mapping entries => .ok (Mapping.get? (String.ofList segment) entries)
  | .list items | .tuple items =>
    if !segment.isEmpty && segment.all isDigit then
      match Number.int? 10 segment with
      | some index => .ok (items[index.toNat]?)
      | none => .error .wrongValue
    else .ok none
  | _ => .ok none

def walk (current : Value) : List (List Char) → Except Fault (Option Value)
  | [] => .ok (some current)
  | segment :: rest => do
    match ← child? current segment with
    | some next => walk next rest
    | none => return none

/-- The segments of a path text, blanks around the text apart. -/
def segments (path : List Char) : List (List Char) := splitOn ['.'] (trim path)

/-- The value that a path reaches. -/
def resolvePath (scope : Scope) (path : List Char) : Except Fault (Option Value) :=
  walk (.mapping scope) (segments path)

mutual

/-- A value as it appears in markup: nothing for the null value, elements of sequences separated
by commas, mappings as JSON. -/
def stringify : Value → Except Fault (List Char)
  | .null => .ok []
  | .bool b => .ok (if b then "true" else "false").toList
  | .int n => Json.writeInt n
  | .list items => (stringifyItems items).map (joinWith [','])
  | .tuple items => (stringifyItems items).map (joinWith [','])
  | .mapping entries => Json.write Json.lenientStyle 0 (.mapping entries)
  | other => other.printed

def stringifyItems : List Value → Except Fault (List (List Char))
  | [] => .ok []
  | item :: rest => do
    let first ← stringify item
    return first :: (← stringifyItems rest)

end

def placeholderOpening : List Char := ['@', '[']

/-- The path of a placeholder at the front: at least one character on one line, up to the next
closing bracket. -/
def placeholderFront? (s : List Char) : Option (List Char × List Char) :=
  match dropFront? placeholderOpening s with
  | some (c :: body) =>
    if c = '\n' then none
    else (cutAt? [']'] body).bind fun cut =>
      if cut.1.elem '\n' then none else some (c :: cut.1, cut.2)
  | _ => none

theorem placeholderFront?_eq_append {s path rest : List Char}
    (found : placeholderFront? s = some (path, rest)) :
    s = placeholderOpening ++ path ++ [']'] ++ rest := by
  unfold placeholderFront? at found
  split at found
  next c body opened =>
    split at found
    · simp at found
    · simp only [Option.bind_eq_some_iff, Prod.exists] at found
      obtain ⟨before, after, cut, found⟩ := found
      split at found
      · simp at found
      · simp only [Option.some.injEq, Prod.mk.injEq] at found
        obtain ⟨rfl, rfl⟩ := found
        rw [dropFront?_eq_some_iff.mp opened, cutAt?_eq_append cut]
        simp
  · simp at found

def placeholders : Scanner (List Char) where
  run := placeholderFront?
  shorter found := by
    rw [placeholderFront?_eq_append found]
    simp [placeholderOpening]; omega
  suffix found := ⟨_, placeholderFront?_eq_append found⟩

def unresolvedMark (path : List Char) : List Char :=
  "[[UNRESOLVED:".toList ++ path ++ "]]".toList

/-- The text for a path. -/
def placeholderText (mode : PlaceholderMode) (scope : Scope) (path : List Char) :
    Except Fault (List Char) := do
  match ← resolvePath scope path with
  | some value => stringify value
  | none => return match mode with
    | .silent => []
    | .strict => unresolvedMark path

def fillPieces (mode : PlaceholderMode) (scope : Scope) :
    List (Piece (List Char)) → Except Fault (List Char)
  | [] => .ok []
  | .plain c :: pieces => (fillPieces mode scope pieces).map (c :: ·)
  | .found path _ :: pieces => do
    let text ← placeholderText mode scope path
    return text ++ (← fillPieces mode scope pieces)

/-- Replaces every placeholder of a text. -/
def fillPlaceholders (mode : PlaceholderMode) (scope : Scope) (s : List Char) :
    Except Fault (List Char) :=
  fillPieces mode scope (placeholders.pieces s)

end StaticSite.Template
