import Mathlib
import StaticSite.Proofs.Component.References
import StaticSite.Proofs.Json.Locality
import StaticSite.Template.Placeholder

/-!
# References that were written

Markup is put together from texts in which no reference begins and from references between them,
each a name with or without data. The references that are found in such markup are those that were
written, in their order, with their data and at their places: the doubled closing brace that a
reference is first cut at may lie inside its data, but its data is read from the front and tells
where it ends.
-/

namespace StaticSite.Component

open StaticSite.Text

/-! ### What is written -/

/-- The text of a reference. -/
def mentionText (name : List Char) : Option Mapping.Entries → Except Fault (List Char)
  | none => .ok (Reference.opening ++ name ++ ['\x7d'])
  | some entries => do
    let literal ← Template.stringify (.mapping entries)
    return Reference.opening ++ name ++ [':', ' '] ++ literal ++ ['\x7d']

/-- A reference as it is written: a name, data if there is any, and the text of both. -/
structure Mention where
  name : List Char
  data? : Option Mapping.Entries
  text : List Char
  named : name ≠ []
  letters : ∀ c ∈ name, Reference.isNameChar c = true
  exact : ∀ entries ∈ data?, Json.Exact (.mapping entries)
  written : mentionText name data? = .ok text

/-- A text in which no reference begins. -/
structure Gap where
  text : List Char
  plain : ¬ Reference.opening <:+: text

/-- Texts with a reference after each but the last. -/
def interleave : List (Gap × Mention) → Gap → List Char
  | [], last => last.text
  | part :: parts, last => part.1.text ++ (part.2.text ++ interleave parts last)

/-- The offsets of the references, where `start` characters stand before the first text. -/
def offsets (start : Nat) : List (Gap × Mention) → List (Nat × Nat)
  | [] => []
  | part :: parts =>
    let opens := start + part.1.text.length
    let closes := opens + part.2.text.length
    (opens, closes) :: offsets closes parts

/-- The texts of `s` from `start` on that stand before, between and after spans. -/
def textsBetween (s : List Char) (start : Nat) : List Reference.Span → List (List Char)
  | [] => [s.drop start]
  | span :: spans => (s.take span.start).drop start :: textsBetween s span.stop spans

/-! ### Reading one reference -/

/-- A reference that is well formed: a name, alone or with the text of one JSON object and the data
that is read from this text. -/
structure Proper where
  name : List Char
  object? : Option (List Char × Mapping.Entries)
  named : name ≠ []
  letters : ∀ c ∈ name, Reference.isNameChar c = true
  reads : ∀ object ∈ object?, Json.readFront object.1 = .ok (.mapping object.2, [])

theorem name_front {name : List Char} (letters : ∀ c ∈ name, Reference.isNameChar c = true)
    {mark : Char} (stop : Reference.isNameChar mark = false) (rest : List Char) :
    (name ++ mark :: rest).takeWhile Reference.isNameChar = name
      ∧ (name ++ mark :: rest).dropWhile Reference.isNameChar = mark :: rest := by
  rw [List.takeWhile_append_of_pos letters, List.dropWhile_append_of_pos letters]
  simp [stop]

/-- The data of a reference is read up to its last brace, whatever braces it has inside. -/
theorem inlineFront?_object {object : List Char} {entries : Mapping.Entries}
    (reads : Json.readFront object = .ok (.mapping entries, [])) (rest : List Char) :
    Reference.inlineFront? (':' :: ' ' :: (object ++ '\x7d' :: rest))
      = some (.given entries, rest) := by
  have ends : Json.EndsNumber ('\x7d' :: rest) := Json.endsNumber_cons rest (.inr (.inr rfl))
  obtain ⟨front, whole, again⟩ := Json.readFront_local reads
  rw [List.append_nil] at whole
  subst whole
  have read := again _ ends
  obtain ⟨inner, rfl⟩ := Json.readFront_mapping reads
  -- The doubled brace at the end makes sure that there is one to be cut at.
  have doubled : (cutAt? Reference.closing (inner ++ (Reference.closing ++ rest))).isSome = true :=
    cutAt?_isSome _ _ _
  obtain ⟨cut, found⟩ := Option.isSome_iff_exists.mp doubled
  have shape : '\x7b' :: (inner ++ ['\x7d']) ++ '\x7d' :: rest
      = '\x7b' :: (inner ++ (Reference.closing ++ rest)) := by
    simp [Reference.closing]
  have blank : (' ' :: ('\x7b' :: (inner ++ (Reference.closing ++ rest)))).dropWhile isBlank
      = '\x7b' :: (inner ++ (Reference.closing ++ rest)) := by
    have space : isBlank ' ' = true := by decide
    have brace : isBlank '\x7b' = false := by decide
    simp [space, brace]
  have shut : ('\x7d' :: rest).dropWhile isBlank = '\x7d' :: rest := by
    have brace : isBlank '\x7d' = false := by decide
    simp [brace]
  rw [shape] at read ⊢
  simp only [Reference.inlineFront?, blank, found, Option.map_some, Reference.readInline, read, shut]

namespace Proper

def text (proper : Proper) : List Char := match proper.object? with
  | none => Reference.opening ++ proper.name ++ ['\x7d']
  | some object => Reference.opening ++ proper.name ++ [':', ' '] ++ object.1 ++ ['\x7d']

def inline (proper : Proper) : Inline := match proper.object? with
  | none => .absent
  | some object => .given object.2

def reference (proper : Proper) : Reference := ⟨proper.name, proper.inline⟩

/-- A reference that is well formed says what it refers to, whatever follows. -/
theorem front?_text (proper : Proper) (rest : List Char) :
    Reference.front? (proper.text ++ rest) = some (proper.reference, rest) := by
  obtain ⟨name, object?, named, letters, reads⟩ := proper
  obtain ⟨c, tail, rfl⟩ := List.exists_cons_of_ne_nil named
  cases object? with
  | none =>
    have brace : Reference.isNameChar '\x7d' = false := by decide
    obtain ⟨taken, left⟩ := name_front letters brace rest
    rw [text, List.append_assoc, List.append_assoc, List.singleton_append,
      Reference.front?_cons taken, left]
    rfl
  | some object =>
    obtain ⟨object, entries⟩ := object
    have colon : Reference.isNameChar ':' = false := by decide
    obtain ⟨taken, left⟩ := name_front letters colon (' ' :: (object ++ '\x7d' :: rest))
    have regroup : Reference.opening ++ (c :: tail) ++ [':', ' '] ++ object ++ ['\x7d'] ++ rest
        = Reference.opening ++ (c :: tail ++ ':' :: ' ' :: (object ++ '\x7d' :: rest)) := by
      simp
    rw [text, regroup, Reference.front?_cons taken, left, inlineFront?_object (reads _ rfl) rest]
    rfl

end Proper

namespace Mention

def inline (mention : Mention) : Inline := match mention.data? with
  | none => .absent
  | some entries => .given entries

def reference (mention : Mention) : Reference := ⟨mention.name, mention.inline⟩

theorem reference_data (mention : Mention) :
    mention.reference.data = mention.data?.getD [] := by
  cases shape : mention.data? <;> simp [reference, inline, Reference.data, shape]

/-- What is written for a reference says what it refers to, whatever follows. -/
theorem front?_text (mention : Mention) (rest : List Char) :
    Reference.front? (mention.text ++ rest) = some (mention.reference, rest) := by
  obtain ⟨name, data?, text, named, letters, exact, written⟩ := mention
  cases data? with
  | none =>
    cases written
    exact Proper.front?_text ⟨name, none, named, letters, nofun⟩ rest
  | some entries =>
    obtain ⟨literal, shown, written⟩ := Fault.bind_eq_ok written
    cases written
    have ends : Json.EndsNumber [] := nofun
    have read := Json.readFront_written (exact entries rfl) shown ends
    rw [List.append_nil] at read
    have reads : ∀ object ∈ some (literal, entries),
        Json.readFront object.1 = .ok (.mapping object.2, []) := by
      intro object given
      cases given
      exact read
    exact Proper.front?_text ⟨name, some (literal, entries), named, letters, reads⟩ rest

end Mention

/-! ### Reading all of them -/

/-- No reference begins in a gap, not even at its end. -/
theorem Gap.skips (gap : Gap) {rest : List Char} (apart : rest.head? ≠ some '\x7b') :
    Skips Reference.scanner.run gap.text rest := by
  intro tail inside nonempty
  have absent : dropFront? Reference.opening (tail ++ rest) = none := by
    rw [Option.eq_none_iff_forall_not_mem]
    intro after found
    have shape := dropFront?_eq_some_iff.mp found
    match tail, nonempty with
    | [c], _ =>
      -- The brace would be the first character after the gap.
      rw [Reference.opening, List.singleton_append, List.cons_append, List.cons.injEq] at shape
      exact apart (by rw [shape.2]; rfl)
    | c :: d :: tail, _ =>
      simp only [Reference.opening, List.cons_append, List.nil_append, List.cons.injEq] at shape
      obtain ⟨rfl, rfl, -⟩ := shape
      exact gap.plain (List.IsInfix.trans ⟨[], tail, rfl⟩ inside.isInfix)
  show Reference.front? _ = none
  rw [Reference.front?, absent, Option.bind_none]

/-- A gap and the reference behind it are cut off the rest. -/
theorem pieces_gap_found (gap : Gap) {text rest : List Char} {reference : Reference}
    (front : Reference.front? (text ++ rest) = some (reference, rest)) :
    Reference.scanner.pieces (gap.text ++ (text ++ rest))
      = gap.text.map Piece.plain ++ .found reference text :: Reference.scanner.pieces rest := by
  have apart : (text ++ rest).head? ≠ some '\x7b' := by
    obtain ⟨inner, opened⟩ := Reference.front?_suffix front
    rw [opened]
    exact fun same => nomatch same
  rw [Scanner.pieces_skip (gap.skips apart), Scanner.pieces_found front]

theorem pieces_interleave_cons (gap : Gap) (mention : Mention) (rest : List Char) :
    Reference.scanner.pieces (gap.text ++ (mention.text ++ rest))
      = gap.text.map Piece.plain
        ++ .found mention.reference mention.text :: Reference.scanner.pieces rest :=
  pieces_gap_found gap (mention.front?_text rest)

theorem pieces_gap (gap : Gap) :
    Reference.scanner.pieces gap.text = gap.text.map Piece.plain := by
  have alone : ([] : List Char).head? ≠ some '\x7b' := nofun
  have pieces := Scanner.pieces_skip (gap.skips alone)
  rwa [List.append_nil, Scanner.pieces_nil, List.append_nil] at pieces

/-- The spans of the references, where `start` characters stand before the first text. -/
def spansOf (start : Nat) : List (Gap × Mention) → List Reference.Span
  | [] => []
  | part :: parts =>
    let opens := start + part.1.text.length
    let closes := opens + part.2.text.length
    ⟨part.2.reference, opens, closes⟩ :: spansOf closes parts

theorem spansFrom_plain (start : Nat) (s : List Char) (pieces : List (Piece Reference)) :
    Reference.spansFrom start (s.map Piece.plain ++ pieces)
      = Reference.spansFrom (start + s.length) pieces := by
  induction s generalizing start with
  | nil => rfl
  | cons c s ih =>
    have regroup : start + 1 + s.length = start + (s.length + 1) := by omega
    rw [List.map_cons, List.cons_append, Reference.spansFrom, ih, List.length_cons, regroup]

theorem spansFrom_interleave (parts : List (Gap × Mention)) (last : Gap) (start : Nat) :
    Reference.spansFrom start (Reference.scanner.pieces (interleave parts last))
      = spansOf start parts := by
  induction parts generalizing start with
  | nil =>
    have plain := spansFrom_plain start last.text []
    rw [List.append_nil] at plain
    rw [interleave, pieces_gap, plain]
    rfl
  | cons part parts ih =>
    rw [interleave, pieces_interleave_cons, spansFrom_plain, Reference.spansFrom, ih]
    rfl

/-- There is nothing to report: all data can be read. -/
theorem reportAll_interleave (parts : List (Gap × Mention)) (last : Gap) :
    Reference.reportAll (Reference.scanner.pieces (interleave parts last)) = pure () := by
  induction parts with
  | nil =>
    have alone := Reference.reportAll_text last.text []
    rw [List.append_nil] at alone
    rw [interleave, pieces_gap, alone]
    rfl
  | cons part parts ih =>
    have quiet : part.2.reference.report = pure () := by
      cases shape : part.2.data? <;>
        simp [Mention.reference, Mention.inline, Reference.report, shape]
    rw [interleave, pieces_interleave_cons, Reference.reportAll_text, Reference.reportAll, quiet,
      pure_bind, ih]

theorem textsBetween_interleave (front : List Char) (parts : List (Gap × Mention)) (last : Gap) :
    textsBetween (front ++ interleave parts last) front.length (spansOf front.length parts)
      = parts.map (fun part => part.1.text) ++ [last.text] := by
  induction parts generalizing front with
  | nil => simp [textsBetween, spansOf, interleave]
  | cons part parts ih =>
    have inner := ih (front ++ part.1.text ++ part.2.text)
    have regroup : front ++ interleave (part :: parts) last
        = front ++ part.1.text ++ part.2.text ++ interleave parts last := by
      simp [interleave]
    have gap : ((front ++ interleave (part :: parts) last).take
        (front.length + part.1.text.length)).drop front.length = part.1.text := by
      rw [interleave, ← List.append_assoc, ← List.length_append, List.take_left, List.drop_left]
    rw [List.length_append, List.length_append, ← regroup] at inner
    rw [spansOf, textsBetween, gap, inner]
    rfl

/-- In texts with references between them exactly these references are found, in their order, with
their names and data, at the places where they were written, so that the texts stand between
them. -/
theorem spans_interleave (parts : List (Gap × Mention)) (last : Gap) :
    ∃ spans, Reference.spans (interleave parts last) = pure spans
      ∧ spans.map (fun span => (span.reference.name, span.reference.data))
        = parts.map (fun part => (part.2.name, part.2.data?.getD []))
      ∧ spans.map (fun span => (span.start, span.stop)) = offsets 0 parts
      ∧ textsBetween (interleave parts last) 0 spans
        = parts.map (fun part => part.1.text) ++ [last.text] := by
  refine ⟨spansOf 0 parts, ?_, ?_, ?_, textsBetween_interleave [] parts last⟩
  · rw [Reference.spans, Reference.pieces, reportAll_interleave, pure_bind, pure_bind,
      spansFrom_interleave]
  · -- The start is general, since a later reference begins behind the earlier ones.
    generalize 0 = start
    induction parts generalizing start with
    | nil => rfl
    | cons part parts ih =>
      rw [spansOf, List.map_cons, List.map_cons, ih, part.2.reference_data]
      rfl
  · generalize 0 = start
    induction parts generalizing start with
    | nil => rfl
    | cons part parts ih =>
      rw [spansOf, List.map_cons, offsets, ih]

/-- A reference whose data holds doubled braces, in a string and at the end of an inner mapping. -/
def bracesMention : Mention where
  name := ['C']
  data? := some [(.str "\x7d\x7d", .mapping [(.str "n", .list [.int 1, .null])])]
  text := "@\x7bC: \x7b\"\x7d\x7d\": \x7b\"n\": [1, null]\x7d\x7d\x7d".toList
  named := by decide
  letters := List.all_eq_true.mp (by cbv)
  exact entries given := by
    cases given
    have item : Json.Exact (.list [.int 1, .null]) := by
      refine .list fun item inside => ?_
      simp only [List.mem_cons, List.not_mem_nil, or_false] at inside
      rcases inside with rfl | rfl
      · exact .int 1
      · exact .null
    have inner : Json.Exact (.mapping (Json.named [("n", .list [.int 1, .null])])) := by
      refine .mapping (by decide) fun member inside => ?_
      cases List.mem_singleton.mp inside
      exact item
    have outer : Json.Exact (.mapping (Json.named
        [("\x7d\x7d", .mapping (Json.named [("n", .list [.int 1, .null])]))])) := by
      refine .mapping (by decide) fun member inside => ?_
      cases List.mem_singleton.mp inside
      exact inner
    exact outer
  written := by cbv

theorem spans_interleave_braces :
    ∃ spans, Reference.spans
        "x@\x7bC: \x7b\"\x7d\x7d\": \x7b\"n\": [1, null]\x7d\x7d\x7dy".toList = pure spans
      ∧ spans.map (fun span => (span.start, span.stop)) = [(1, 31)] := by
  have first : ¬ Reference.opening <:+: ['x'] := by decide
  have last : ¬ Reference.opening <:+: ['y'] := by decide
  obtain ⟨spans, found, -, places, -⟩ :=
    spans_interleave [(⟨['x'], first⟩, bracesMention)] ⟨['y'], last⟩
  have text : interleave [(⟨['x'], first⟩, bracesMention)] ⟨['y'], last⟩
      = "x@\x7bC: \x7b\"\x7d\x7d\": \x7b\"n\": [1, null]\x7d\x7d\x7dy".toList := rfl
  rw [text] at found
  exact ⟨spans, found, places⟩

end StaticSite.Component
