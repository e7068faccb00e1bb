import StaticSite.Json.Reader
import StaticSite.Reported
import StaticSite.Text.Scanner

/-!
# References

A component includes another one by `@{Name}`, with data by `@{Name: {…}}`, where the data is one
JSON object. A reference with data needs a doubled closing brace somewhere after
the brace that opens the data. Where the data can be read, the reference ends at the brace that
follows it; else the reference has no data and ends at that doubled brace.
-/

namespace StaticSite.Component

open StaticSite.Text

/-- What a reference says about its data. -/
inductive Inline where
  | absent
  | given (entries : Mapping.Entries)
  /-- The data is no JSON. -/
  | malformed
  /-- Something else than a brace follows the data. -/
  | unterminated
  /-- Reading the data failed in another way. -/
  | refused (fault : Fault)

structure Reference where
  name : List Char
  inline : Inline

namespace Reference

def opening : List Char := ['@', '\x7b']

def closing : List Char := ['\x7d', '\x7d']

def isNameChar (c : Char) : Bool := isWord c || c = '-'

/-- Reads the data of a reference at its opening brace; `after` follows the doubled closing brace.
Gives what was read and the text that follows the reference. -/
def readInline (literal after : List Char) : Inline × List Char :=
  match Json.readFront literal with
  | .ok (value, rest) =>
    match rest.dropWhile isBlank, value with
    | '\x7d' :: rest, .mapping entries => (.given entries, rest)
    | _, _ => (.unterminated, after)
  | .error .malformedJson => (.malformed, after)
  | .error fault => (.refused fault, after)

/-- The data of a reference, from the character after its name, and what follows the reference. -/
def inlineFront? : List Char → Option (Inline × List Char)
  | '\x7d' :: rest => some (.absent, rest)
  | ':' :: body =>
    match body.dropWhile isBlank with
    | '\x7b' :: inner => (cutAt? closing inner).map fun cut => readInline ('\x7b' :: inner) cut.2
    | _ => none
  | _ => none

/-- A reference at the front of a text, and what follows it. -/
def front? (s : List Char) : Option (Reference × List Char) :=
  (dropFront? opening s).bind fun body =>
    match body.takeWhile isNameChar with
    | [] => none
    | name => (inlineFront? (body.dropWhile isNameChar)).map fun found =>
      (⟨name, found.1⟩, body.drop (body.length - found.2.length))

theorem front?_suffix {s rest : List Char} {reference : Reference}
    (found : front? s = some (reference, rest)) : ∃ front, s = opening ++ front ++ rest := by
  simp only [front?, Option.bind_eq_some_iff] at found
  obtain ⟨body, opened, found⟩ := found
  split at found
  · simp at found
  · simp only [Option.map_eq_some_iff, Prod.mk.injEq] at found
    obtain ⟨tail, _, _, rfl⟩ := found
    exact ⟨body.take (body.length - tail.2.length), by
      rw [dropFront?_eq_some_iff.mp opened, List.append_assoc, List.take_append_drop]⟩

def scanner : Scanner Reference where
  run := front?
  shorter found := by
    obtain ⟨front, same⟩ := front?_suffix found
    rw [same]
    simp [opening]; omega
  suffix found := by
    obtain ⟨front, same⟩ := front?_suffix found
    exact ⟨_, same⟩

/-- The data handed to the component: none where none could be read. -/
def data (reference : Reference) : Mapping.Entries := match reference.inline with
  | .given entries => entries
  | _ => []

/-- Reports data that could not be read. -/
def report (reference : Reference) : Reported Unit :=
  let name := String.ofList reference.name
  match reference.inline with
  | .malformed =>
    .warn .rendering ("JSON parsing error for \"" ++ name ++ "\": " ++ Fault.malformedJson.text)
  | .unterminated =>
    .warn .rendering ("Unterminated data literal for \"" ++ name ++ "\"; ignoring it.")
  | .refused fault => .fail fault
  | .absent | .given _ => pure ()

def reportAll : List (Piece Reference) → Reported Unit
  | [] => pure ()
  | .plain _ :: pieces => reportAll pieces
  | .found reference _ :: pieces => do
    reference.report
    reportAll pieces

/-- A text cut at its references. Every report comes before the first reference is followed. -/
def pieces (s : List Char) : Reported (List (Piece Reference)) := do
  reportAll (scanner.pieces s)
  return scanner.pieces s

/-- A reference with the offsets of its first character and of the one after its last. -/
structure Span where
  reference : Reference
  start : Nat
  stop : Nat

def spansFrom (offset : Nat) : List (Piece Reference) → List Span
  | [] => []
  | .plain _ :: pieces => spansFrom (offset + 1) pieces
  | .found reference source :: pieces =>
    ⟨reference, offset, offset + source.length⟩ :: spansFrom (offset + source.length) pieces

/-- The references of a text, in order. -/
def spans (s : List Char) : Reported (List Span) := do
  return spansFrom 0 (← pieces s)

end Reference

end StaticSite.Component
