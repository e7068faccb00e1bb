import StaticSite.Proofs.Component.Dependencies
import StaticSite.Proofs.Component.Mentions
import StaticSite.Proofs.Text.Cutting

/-!
# References whose data is spoiled

Data that cannot be read does not tell where it ends, so its reference ends at the first doubled
brace behind the brace that opens the data, wherever in the text that is. A reference that comes
later is found as if nothing had happened if a doubled brace stands before it, or none stands behind
at all: then the first reference is none. In all other texts the later reference is swallowed.
-/

namespace StaticSite.Component

open StaticSite.Text

/-! ### Spans -/

theorem le_start_of_mem {offset : Nat} {pieces : List (Piece Reference)} {span : Reference.Span}
    (listed : span ∈ Reference.spansFrom offset pieces) : offset ≤ span.start := by
  induction pieces generalizing offset with
  | nil => contradiction
  | cons piece pieces ih =>
    cases piece with
    | plain c => exact (Nat.le_succ offset).trans (ih listed)
    | found reference source =>
      rcases List.mem_cons.mp listed with rfl | behind
      · exact Nat.le_refl _
      · exact (Nat.le_add_right _ _).trans (ih behind)

/-- The spans of a gap and of a reference behind it. -/
theorem spansFrom_gap (gap : Gap) (offset : Nat) {text rest : List Char} {reference : Reference}
    (front : Reference.front? (text ++ rest) = some (reference, rest)) :
    Reference.spansFrom offset (Reference.scanner.pieces (gap.text ++ (text ++ rest)))
      = ⟨reference, offset + gap.text.length, offset + gap.text.length + text.length⟩
        :: Reference.spansFrom (offset + gap.text.length + text.length)
          (Reference.scanner.pieces rest) := by
  rw [pieces_gap_found gap front, spansFrom_plain, Reference.spansFrom]

theorem items_spansFrom (offset : Nat) (pieces : List (Piece Reference)) :
    (Reference.spansFrom offset pieces).map (·.reference) = Renderer.items pieces := by
  induction pieces generalizing offset with
  | nil => rfl
  | cons piece pieces ih =>
    cases piece with
    | plain c => exact ih (offset + 1)
    | found reference source => exact congrArg (reference :: ·) (ih (offset + source.length))

/-- The references of a text are given exactly if the data of none of them is refused. -/
theorem outcome_spans {s : List Char} {spans : List Reference.Span} :
    (Reference.spans s).outcome = .ok spans ↔
      Reference.spansFrom 0 (Reference.scanner.pieces s) = spans
        ∧ ∀ span ∈ spans, span.reference.inline.refusal? = none := by
  have reported : (Reference.spans s).outcome
      = (Reference.reportAll (Reference.scanner.pieces s)).outcome.bind fun _ =>
        .ok (Reference.spansFrom 0 (Reference.scanner.pieces s)) := by
    simp only [Reference.spans, Reference.pieces, bind_assoc, pure_bind, Reported.outcome_bind]
    rfl
  -- The first refused data is the fault, so there is none exactly if nothing is refused.
  rw [reported, Renderer.outcome_reportAll, ← items_spansFrom 0, List.findSome?_map]
  cases refused : (Reference.spansFrom 0 (Reference.scanner.pieces s)).findSome?
      ((fun reference => reference.inline.refusal?) ∘ (·.reference)) with
  | some fault =>
    refine ⟨fun given => by contradiction, ?_⟩
    rintro ⟨rfl, plain⟩
    cases refused.symm.trans (List.findSome?_eq_none_iff.mpr plain)
  | none =>
    refine ⟨fun given => ?_, fun given => congrArg Except.ok given.1⟩
    cases given
    exact ⟨rfl, List.findSome?_eq_none_iff.mp refused⟩

/-! ### The reference with the spoiled data -/

/-- A reference with spoiled data in front of a reference that is well formed. -/
structure Spoiled where
  before : Gap
  name : List Char
  named : name ≠ []
  letters : ∀ c ∈ name, Reference.isNameChar c = true
  /-- The data up to the later reference, without its opening brace. -/
  inner : Gap
  later : Proper
  rest : List Char
  /-- From its brace on, the data is no JSON, or it is not followed by the end of a reference. -/
  spoiled : ∀ v after,
    Json.readFront ('\x7b' :: (inner.text ++ (later.text ++ rest))) = .ok (v, after) →
      ∀ u, after.dropWhile isBlank ≠ '\x7d' :: u

namespace Spoiled

def behind (x : Spoiled) : List Char := x.later.text ++ x.rest

def data (x : Spoiled) : List Char := '\x7b' :: (x.inner.text ++ x.behind)

def head (x : Spoiled) : List Char := Reference.opening ++ x.name ++ [':', ' ', '\x7b']

def text (x : Spoiled) : List Char := x.before.text ++ (x.head ++ (x.inner.text ++ x.behind))

/-- The later reference at its place. -/
def own (x : Spoiled) : Reference.Span :=
  let start := x.before.text.length + x.head.length + x.inner.text.length
  ⟨x.later.reference, start, start + x.later.text.length⟩

/-- The spans of all references of the text. -/
def found (x : Spoiled) : List Reference.Span :=
  Reference.spansFrom 0 (Reference.scanner.pieces x.text)

/-- A doubled brace stands in front of the later reference, or none behind the opening brace. -/
def Visible (x : Spoiled) : Prop :=
  Reference.closing <:+: x.inner.text ∨ ¬ Reference.closing <:+: x.inner.text ++ x.behind

variable (x : Spoiled)

/-- Where spoiled data ends is not asked. -/
theorem readInline_data (after : List Char) : (Reference.readInline x.data after).2 = after := by
  unfold Reference.readInline
  split
  next _ rest read =>
    split
    next u _ shut => exact absurd shut (x.spoiled _ rest read u)
    next => rfl
  next => rfl
  next => rfl

/-- The first reference ends at the first doubled brace, and is none without one. -/
theorem front?_head : Reference.front? (x.head ++ (x.inner.text ++ x.behind))
    = (cutAt? Reference.closing (x.inner.text ++ x.behind)).map fun cut =>
      (⟨x.name, (Reference.readInline x.data cut.2).1⟩, cut.2) := by
  obtain ⟨c, tail, named⟩ := List.exists_cons_of_ne_nil x.named
  have colon : Reference.isNameChar ':' = false := by decide
  have brace : isBlank '\x7b' = false := by decide
  have space : isBlank ' ' = true := by decide
  obtain ⟨taken, left⟩ := name_front x.letters colon (' ' :: x.data)
  have regroup : x.head ++ (x.inner.text ++ x.behind)
      = Reference.opening ++ (x.name ++ ':' :: ' ' :: x.data) := by
    simp [head, data]
  have opened : (' ' :: x.data).dropWhile isBlank = '\x7b' :: (x.inner.text ++ x.behind) := by
    simp [data, space, brace]
  rw [regroup, Reference.front?_cons (taken.trans named), left, ← named, Reference.inlineFront?]
  simp only [opened, Option.map_map]
  refine Option.map_congr fun cut _ => ?_
  exact congrArg (Prod.mk _) (x.readInline_data cut.2)

/-! ### What is found behind it -/

/-- The later reference and what is found behind it. -/
def onward : List Reference.Span :=
  x.own :: Reference.spansFrom x.own.stop (Reference.scanner.pieces x.rest)

theorem behind_apart : x.behind.head? ≠ some '\x7b' := by
  obtain ⟨inner, opened⟩ := Reference.front?_suffix (x.later.front?_text x.rest)
  rw [behind, opened]
  exact fun same => nomatch same

/-- Without a doubled brace there is no first reference. -/
theorem found_whole (absent : cutAt? Reference.closing (x.inner.text ++ x.behind) = none) :
    x.found = x.onward := by
  have marker : '@' ∉ '\x7b' :: (x.name ++ [':', ' ', '\x7b']) := by
    have letters : '@' ∉ x.name := notMem_of_forall x.letters (by decide)
    simp [letters]
  -- The mark is skipped, and the spoiled data is plain text up to the later reference.
  let covered : Gap := ⟨'\x7b' :: (x.name ++ [':', ' ', '\x7b']) ++ x.inner.text, fun inside =>
    x.inner.plain (infix_of_notMem marker inside)⟩
  have first : Reference.front? ('@' :: (covered.text ++ x.behind)) = none := by
    have shape : '@' :: (covered.text ++ x.behind) = x.head ++ (x.inner.text ++ x.behind) := by
      simp [covered, head, Reference.opening]
    rw [shape, x.front?_head, absent, Option.map_none]
  have quiet : Skips Reference.scanner.run ('@' :: covered.text) x.behind :=
    Skips.cons first (covered.skips x.behind_apart)
  have apart : ('@' :: covered.text ++ x.behind).head? ≠ some '\x7b' := by
    rw [List.cons_append, List.head?_cons]
    decide
  have shape : x.text = x.before.text ++ '@' :: covered.text ++ (x.later.text ++ x.rest) := by
    simp [text, covered, head, Reference.opening, behind]
  have sizes : (x.before.text ++ '@' :: covered.text).length = x.own.start := by
    simp [covered, own, head, Reference.opening]
    omega
  have skips : Skips Reference.scanner.run (x.before.text ++ '@' :: covered.text)
      (x.later.text ++ x.rest) := (x.before.skips apart).append quiet
  rw [found, shape, Scanner.pieces_skip skips, Scanner.pieces_found (x.later.front?_text x.rest),
    spansFrom_plain, Reference.spansFrom, Nat.zero_add, sizes]
  rfl

/-- The text of the first reference, if it is cut behind a front. -/
def source (front : List Char) : List Char := x.head ++ (front ++ Reference.closing)

/-- The span of the first reference, if it is cut between a front and what comes after it. -/
def first (front after : List Char) : Reference.Span :=
  ⟨⟨x.name, (Reference.readInline x.data after).1⟩, x.before.text.length,
    x.before.text.length + (x.source front).length⟩

variable {x} {front back after : List Char}

/-- With a doubled brace the first reference ends behind it. -/
theorem found_cut
    (cut : cutAt? Reference.closing (x.inner.text ++ x.behind) = some (front, after)) :
    x.found = x.first front after
      :: Reference.spansFrom (x.first front after).stop (Reference.scanner.pieces after) := by
  have regroup : x.head ++ (x.inner.text ++ x.behind) = x.source front ++ after := by
    simp [cutAt?_eq_append cut, source]
  have read := x.front?_head
  rw [cut, regroup, Option.map_some] at read
  rw [found, text, regroup, spansFrom_gap x.before 0 read, Nat.zero_add]
  rfl

/-- Where it stands in front of the later reference, that one is found as well. -/
theorem found_inside
    (cut : cutAt? Reference.closing (x.inner.text ++ x.behind) = some (front, back ++ x.behind))
    (shape : x.inner.text = front ++ Reference.closing ++ back) :
    x.found = x.first front (back ++ x.behind) :: x.onward
      ∧ (x.first front (back ++ x.behind)).stop ≤ x.own.start := by
  let between : Gap := ⟨back, fun inside => x.inner.plain (by
    rw [shape]
    exact inside.trans (List.suffix_append _ _).isInfix)⟩
  have sizes : (x.first front (back ++ x.behind)).stop + between.text.length = x.own.start := by
    simp [first, source, own, shape, between]
    omega
  have behind : Reference.spansFrom (x.first front (back ++ x.behind)).stop
      (Reference.scanner.pieces (between.text ++ (x.later.text ++ x.rest))) = x.onward := by
    rw [spansFrom_gap between _ (x.later.front?_text x.rest), sizes]
    rfl
  exact ⟨(found_cut cut).trans (congrArg _ behind), sizes ▸ Nat.le_add_right _ _⟩

/-- Where it ends behind the beginning of the later reference, the first one covers that. -/
theorem found_beyond
    (cut : cutAt? Reference.closing (x.inner.text ++ x.behind) = some (front, after))
    (beyond : after.length < x.behind.length) : x.own.start < (x.first front after).stop := by
  have sizes := congrArg List.length (cutAt?_eq_append cut)
  simp only [List.length_append] at sizes
  simp only [own, first, source, List.length_append]
  omega

/-! ### What is reported -/

/-- The cut falls into the inner text, or behind the beginning of the later reference. -/
theorem back_or (cut : cutAt? Reference.closing (x.inner.text ++ x.behind) = some (front, after)) :
    (∃ back, x.inner.text = front ++ Reference.closing ++ back ∧ after = back ++ x.behind)
      ∨ after.length < x.behind.length := by
  rcases List.append_eq_append_iff.mp (cutAt?_eq_append cut) with
    ⟨part, split, rest⟩ | ⟨back, split, rest⟩
  · cases part with
    | nil =>
      rw [List.append_nil] at split
      exact .inl ⟨[], by rw [split, List.append_nil], rest.symm⟩
    | cons c part =>
      refine .inr ?_
      rw [rest, List.length_append, List.length_cons]
      omega
  · exact .inl ⟨back, split, rest⟩

/-- The later reference is found between references that do not touch it, or the first reference
covers its beginning. -/
theorem found_or (x : Spoiled) :
    (x.Visible ∧ ∃ earlier, x.found = earlier ++ x.onward
      ∧ ∀ span ∈ earlier, span.stop ≤ x.own.start)
    ∨ (¬ x.Visible ∧ ∃ first others, x.found = first :: others
      ∧ first.reference.name = x.name ∧ first.start = x.before.text.length
      ∧ x.own.start < first.stop ∧ ∀ span ∈ others, first.stop ≤ span.start) := by
  cases cut : cutAt? Reference.closing (x.inner.text ++ x.behind) with
  | none =>
    refine .inl ⟨.inr ?_, [], found_whole x cut, nofun⟩
    rintro ⟨front, back, shape⟩
    have present := cutAt?_isSome Reference.closing front back
    rw [← List.append_assoc, shape, cut] at present
    contradiction
  | some parts =>
    obtain ⟨front, after⟩ := parts
    rcases back_or cut with ⟨back, shape, rfl⟩ | beyond
    · obtain ⟨spans, ends⟩ := found_inside cut shape
      exact .inl ⟨.inl ⟨front, back, shape.symm⟩, [_], spans, List.forall_mem_singleton.mpr ends⟩
    · refine .inr ⟨?_, _, _, found_cut cut, rfl, rfl, found_beyond cut beyond, fun span listed =>
        le_start_of_mem listed⟩
      rintro (⟨before, back, shape⟩ | absent)
      · -- No doubled brace stands in front of the one that is cut at.
        have occurs : x.inner.text ++ x.behind
            = before ++ Reference.closing ++ (back ++ x.behind) := by
          rw [← shape, List.append_assoc]
        have least := cutAt?_least cut occurs
        have lengths := congrArg List.length (cutAt?_eq_append cut)
        have inner := congrArg List.length shape
        simp only [List.length_append] at lengths inner
        omega
      · exact absent ⟨front, after, (cutAt?_eq_append cut).symm⟩

/-- A reference behind spoiled data is reported, with its span and its data and no other span over
it, exactly if a doubled brace stands between the two, or none behind the first one at all, and no
data of the text is refused. Else the reference with the spoiled data covers its beginning. -/
theorem spans_spoiled (x : Spoiled) :
    ((∃ spans, (Reference.spans x.text).outcome = .ok spans ∧ x.own ∈ spans
        ∧ ∀ span ∈ spans, span = x.own ∨ span.stop ≤ x.own.start ∨ x.own.stop ≤ span.start) ↔
      x.Visible ∧ ∀ span ∈ x.found, span.reference.inline.refusal? = none)
    ∧ (¬ x.Visible → ∃ first ∈ x.found, first.reference.name = x.name
      ∧ first.start < x.own.start ∧ x.own.start < first.stop
      ∧ ∀ span ∈ x.found, span.start ≠ x.own.start) := by
  -- The first reference ends before the later one, or reaches over its mark.
  rcases x.found_or with ⟨visible, earlier, spans, ends⟩
    | ⟨hidden, first, others, spans, named, place, covers, begin⟩
  · refine ⟨⟨?_, ?_⟩, fun hidden => absurd visible hidden⟩
    · rintro ⟨given, reported, -⟩
      obtain ⟨rfl, plain⟩ := outcome_spans.mp reported
      exact ⟨visible, plain⟩
    · rintro ⟨-, plain⟩
      refine ⟨x.found, outcome_spans.mpr ⟨rfl, plain⟩, ?_, ?_⟩
      · rw [spans, onward]
        exact List.mem_append_right _ List.mem_cons_self
      · intro span listed
        rw [spans, onward] at listed
        rcases List.mem_append.mp listed with before | listed
        · exact .inr (.inl (ends span before))
        rcases List.mem_cons.mp listed with same | behind
        · exact .inl same
        · exact .inr (.inr (le_start_of_mem behind))
  · have apart : first.start < x.own.start := by
      have marker : 0 < x.head.length := by simp [head, Reference.opening]
      simp only [place, own]
      omega
    -- The spans stand in order: the first begins before the later mark, the others behind it.
    have elsewhere : ∀ span ∈ x.found, span.start ≠ x.own.start := by
      intro span listed
      rw [spans] at listed
      rcases List.mem_cons.mp listed with rfl | behind
      · exact Nat.ne_of_lt apart
      · have later := begin span behind
        omega
    refine ⟨⟨?_, fun seen => absurd seen.1 hidden⟩, fun _ =>
      ⟨first, by rw [spans]; exact List.mem_cons_self, named, apart, covers, elsewhere⟩⟩
    rintro ⟨given, reported, inside, -⟩
    obtain ⟨rfl, -⟩ := outcome_spans.mp reported
    exact absurd rfl (elsewhere x.own inside)

/-- A reference whose data begins with a bare word, and a reference without data behind it. -/
def typo (inner : Gap) (rest : List Char)
    (unread : Json.readFront ('\x7b' :: (inner.text ++ ("@\x7bB\x7d".toList ++ rest)))
      = .error .malformedJson) : Spoiled where
  before := ⟨[], by decide⟩
  name := ['A']
  named := by decide
  letters := List.all_eq_true.mp (by cbv)
  inner := inner
  later := ⟨['B'], none, by decide, List.all_eq_true.mp (by cbv), nofun⟩
  rest := rest
  spoiled _ _ read := by
    cases unread.symm.trans read

/-- A doubled brace in front of the later reference leaves it visible, one behind it hides it. -/
theorem spans_spoiled_typo :
    (∃ spans, (Reference.spans "@\x7bA: \x7bx \x7d\x7d @\x7bB\x7d".toList).outcome = .ok spans
        ∧ ⟨⟨['B'], .absent⟩, 11, 15⟩ ∈ spans)
      ∧ ¬ ∃ spans, (Reference.spans "@\x7bA: \x7bx @\x7bB\x7d \x7d\x7d".toList).outcome = .ok spans
        ∧ ⟨⟨['B'], .absent⟩, 8, 12⟩ ∈ spans := by
  constructor
  · let seen := typo ⟨"x \x7d\x7d ".toList, by decide⟩ [] (by cbv)
    have visible : seen.Visible := .inl (by decide)
    have cut : cutAt? Reference.closing (seen.inner.text ++ seen.behind)
        = some ("x ".toList, [' '] ++ seen.behind) := by decide
    have found : seen.found = _ := (found_inside cut (by decide)).1
    -- Neither of the two references has data that is refused.
    have plain : ∀ span ∈ seen.found, span.reference.inline.refusal? = none := by
      intro span listed
      rw [found, onward] at listed
      rcases List.mem_cons.mp listed with rfl | listed
      · cbv
      rcases List.mem_cons.mp listed with rfl | behind
      · rfl
      · have nothing : Reference.scanner.pieces seen.rest = [] := Scanner.pieces_nil _
        rw [nothing] at behind
        contradiction
    obtain ⟨spans, given, reported, -⟩ := (spans_spoiled seen).1.mpr ⟨visible, plain⟩
    exact ⟨spans, given, reported⟩
  · let unseen := typo ⟨"x ".toList, by decide⟩ " \x7d\x7d".toList (by cbv)
    rintro ⟨spans, given, reported⟩
    have hidden : ¬ unseen.Visible := by
      rintro (inner | outer)
      · exact absurd inner (by decide)
      · exact outer (by decide)
    obtain ⟨-, -, -, -, -, elsewhere⟩ := (spans_spoiled unseen).2 hidden
    obtain ⟨rfl, -⟩ := outcome_spans.mp given
    exact elsewhere _ reported rfl

end Spoiled

end StaticSite.Component
