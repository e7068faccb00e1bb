import StaticSite.Proofs.Component.Spoiled

/-!
# Blanks around data

The reader of a reference passes over blanks on both sides of its data, but the reference is only
looked at where two closing braces stand next to each other behind the brace that opens the data.
The last brace of the data and the one behind it are such a pair. With a blank between them another
pair has to stand in the data or in the text that follows; without one the reference is plain text,
and of its own text no more is found than what the data alone would give.
-/

namespace StaticSite.Component

open StaticSite.Text

/-! ### Without a doubled brace -/

/-- No data is read where no doubled brace stands behind. -/
theorem inlineFront?_undoubled {s rest : List Char} {inline : Inline}
    (undoubled : ¬ Reference.closing <:+: s)
    (found : Reference.inlineFront? s = some (inline, rest)) :
    inline = .absent ∧ s = '\x7d' :: rest := by
  unfold Reference.inlineFront? at found
  split at found
  next =>
    cases found
    exact ⟨rfl, rfl⟩
  next body =>
    split at found
    next inner opened =>
      obtain ⟨cut, split, -⟩ := Option.map_eq_some_iff.mp found
      -- Data is looked for only before a doubled brace, which would stand in the text.
      have inside : inner <:+ ':' :: body := by
        have blanks := List.dropWhile_suffix isBlank (l := body)
        rw [opened] at blanks
        exact ((List.suffix_cons _ _).trans blanks).trans (List.suffix_cons _ _)
      have doubled : Reference.closing <:+: inner :=
        ⟨cut.1, cut.2, (cutAt?_eq_append split).symm⟩
      exact absurd (doubled.trans inside.isInfix) undoubled
    next => contradiction
  next => contradiction

/-- Where no doubled brace stands behind, the references that are found have no data. -/
theorem front?_undoubled {s rest : List Char} {reference : Reference}
    (undoubled : ¬ Reference.closing <:+: s) :
    Reference.front? s = some (reference, rest) ↔
      ∃ name, name ≠ [] ∧ (∀ c ∈ name, Reference.isNameChar c = true)
        ∧ s = Reference.opening ++ (name ++ '\x7d' :: rest) ∧ reference = ⟨name, .absent⟩ := by
  constructor
  · intro found
    obtain ⟨body, opened, -⟩ := Option.bind_eq_some_iff.mp found
    obtain rfl := dropFront?_eq_some_iff.mp opened
    cases named : body.takeWhile Reference.isNameChar with
    | nil =>
      rw [Reference.front?_nil named] at found
      contradiction
    | cons c name =>
      rw [Reference.front?_cons named] at found
      obtain ⟨⟨inline, after⟩, read, same⟩ := Option.map_eq_some_iff.mp found
      cases same
      have inside : body.dropWhile Reference.isNameChar <:+ Reference.opening ++ body :=
        (List.dropWhile_suffix _).trans (List.suffix_append _ _)
      -- Data would need a doubled brace, so the name is closed at once.
      obtain ⟨rfl, left⟩ := inlineFront?_undoubled
        (fun doubled => undoubled (doubled.trans inside.isInfix)) read
      refine ⟨c :: name, List.cons_ne_nil _ _, ?_, ?_, rfl⟩
      · intro d listed
        rw [← named] at listed
        exact List.mem_takeWhile_imp listed
      · rw [← named, ← left, List.takeWhile_append_dropWhile]
  · rintro ⟨name, named, letters, rfl, rfl⟩
    have shape : Reference.opening ++ (name ++ '\x7d' :: rest)
        = Reference.opening ++ name ++ ['\x7d'] ++ rest := by simp
    rw [shape]
    exact Proper.front?_text ⟨name, none, named, letters, fun _ given => by cases given⟩ rest

/-- Behind a text that ends with a brace nothing else is found for lack of a doubled brace. -/
theorem front?_append_brace {s rest : List Char}
    (undoubled : ¬ Reference.closing <:+: s ++ '\x7d' :: rest) :
    Reference.front? (s ++ '\x7d' :: rest)
      = (Reference.front? (s ++ ['\x7d'])).map fun found => (found.1, found.2 ++ rest) := by
  have regroup : s ++ '\x7d' :: rest = s ++ ['\x7d'] ++ rest := by simp
  have alone : ¬ Reference.closing <:+: s ++ ['\x7d'] := fun doubled =>
    undoubled (regroup ▸ doubled.trans (List.prefix_append _ _).isInfix)
  apply Option.ext
  rintro ⟨reference, after⟩
  rw [front?_undoubled undoubled, Option.map_eq_some_iff]
  constructor
  · rintro ⟨name, named, letters, shape, rfl⟩
    -- The name is over before the brace that ends the text.
    have solid : '\x7d' ∉ Reference.opening ++ name := by
      have plain : '\x7d' ∉ name := notMem_of_forall letters (by decide)
      simp [Reference.opening, plain]
    rw [← List.append_assoc] at shape
    obtain ⟨back, rfl⟩ := prefix_of_notMem solid ⟨'\x7d' :: after, shape.symm⟩
    rw [List.append_assoc, List.append_cancel_left_eq] at shape
    cases back with
    | nil =>
      cases shape
      exact ⟨(⟨name, .absent⟩, []), (front?_undoubled alone).mpr
        ⟨name, named, letters, by simp, rfl⟩, rfl⟩
    | cons c back =>
      cases shape
      exact ⟨(⟨name, .absent⟩, back ++ ['\x7d']), (front?_undoubled alone).mpr
        ⟨name, named, letters, by simp, rfl⟩, by simp⟩
  · rintro ⟨⟨_, left⟩, found, same⟩
    cases same
    obtain ⟨name, named, letters, shape, rfl⟩ := (front?_undoubled alone).mp found
    exact ⟨name, named, letters, by rw [regroup, shape]; simp, rfl⟩

/-- Without a doubled brace a text that ends with a brace has the same references alone as in front of
a text in which none begins. -/
theorem pieces_append_brace (s : List Char) {rest : List Char}
    (undoubled : ¬ Reference.closing <:+: s ++ '\x7d' :: rest)
    (plain : Reference.scanner.pieces rest = rest.map Piece.plain) :
    Reference.scanner.pieces (s ++ '\x7d' :: rest)
      = Reference.scanner.pieces (s ++ ['\x7d']) ++ rest.map Piece.plain := by
  induction size : s.length using Nat.strongRecOn generalizing s with
  | ind n ih =>
    cases s with
    | nil =>
      have brace (tail : List Char) : Reference.scanner.run ('\x7d' :: tail) = none :=
        Reference.steady.needs _ _ (by decide)
      rw [List.nil_append, List.nil_append, Scanner.pieces_plain (brace _),
        Scanner.pieces_plain (brace _), plain, Scanner.pieces_nil]
      rfl
    | cons c s =>
      have step := front?_append_brace undoubled
      cases alone : Reference.front? (c :: s ++ ['\x7d']) with
      | none =>
        rw [alone, Option.map_none] at step
        rw [List.cons_append] at step alone undoubled ⊢
        rw [List.cons_append, Scanner.pieces_plain step, Scanner.pieces_plain alone,
          List.cons_append]
        refine congrArg _ (ih s.length (size ▸ Nat.lt_succ_self _) s ?_ rfl)
        exact fun doubled => undoubled (doubled.trans (List.suffix_cons _ _).isInfix)
      | some found =>
        obtain ⟨reference, after⟩ := found
        rw [alone, Option.map_some] at step
        obtain ⟨front, shape⟩ := Reference.scanner.suffix alone
        have shorter := Reference.scanner.shorter alone
        have whole : c :: s ++ '\x7d' :: rest = front ++ (after ++ rest) := by
          rw [← List.append_assoc, ← shape]
          simp
        rw [whole] at step undoubled ⊢
        rw [shape] at alone ⊢
        have here : Reference.scanner.run (front ++ after) = some (reference, after) := alone
        rw [Scanner.pieces_found step, Scanner.pieces_found here, List.cons_append]
        refine congrArg _ ?_
        rcases List.eq_nil_or_concat after with rfl | ⟨back, last, rfl⟩
        · rw [List.nil_append, plain, Scanner.pieces_nil, List.nil_append]
        · -- What is left ends with the same brace.
          rw [List.concat_eq_append, ← List.append_assoc] at shape
          obtain ⟨kept, same⟩ := List.append_inj' shape rfl
          cases same
          have fewer : back.length < n := by
            rw [List.length_concat, List.length_append, size] at shorter
            exact Nat.lt_of_succ_lt_succ shorter
          rw [List.concat_eq_append, List.append_assoc, List.singleton_append] at undoubled ⊢
          refine ih back.length fewer back ?_ rfl
          exact fun doubled => undoubled (doubled.trans (List.suffix_append _ _).isInfix)

/-- What is found without a doubled brace has no data. -/
theorem absent_of_undoubled {s : List Char} (undoubled : ¬ Reference.closing <:+: s) :
    ∀ reference ∈ Renderer.items (Reference.scanner.pieces s), reference.inline = .absent := by
  induction s using Reference.scanner.induction with
  | nil =>
    rw [Scanner.pieces_nil]
    exact nofun
  | plain c s absent ih =>
    rw [Scanner.pieces_plain absent]
    exact ih fun doubled => undoubled (doubled.trans (List.suffix_cons _ _).isInfix)
  | found reference source rest present ih =>
    obtain ⟨name, -, -, -, rfl⟩ := (front?_undoubled undoubled).mp present
    rw [Scanner.pieces_found present]
    refine List.forall_mem_cons.mpr ⟨rfl, ih fun doubled => ?_⟩
    exact undoubled (doubled.trans (List.suffix_append _ _).isInfix)

/-- There is nothing to report of references without data. -/
theorem reportAll_absent {pieces : List (Piece Reference)}
    (bare : ∀ reference ∈ Renderer.items pieces, reference.inline = .absent) :
    Reference.reportAll pieces = pure () := by
  induction pieces with
  | nil => rfl
  | cons piece pieces ih =>
    cases piece with
    | plain c => exact ih bare
    | found reference source =>
      obtain ⟨first, others⟩ := List.forall_mem_cons.mp bare
      rw [Reference.reportAll, ih others, Reference.report, first]
      rfl

theorem spansFrom_append_plain (offset : Nat) (pieces : List (Piece Reference)) (s : List Char) :
    Reference.spansFrom offset (pieces ++ s.map Piece.plain) = Reference.spansFrom offset pieces := by
  induction pieces generalizing offset with
  | nil =>
    have plain := spansFrom_plain offset s []
    rwa [List.append_nil] at plain
  | cons piece pieces ih =>
    cases piece with
    | plain c => exact ih (offset + 1)
    | found reference source => exact congrArg (_ :: ·) (ih (offset + source.length))

/-! ### A reference with blanks -/

/-- A reference with one JSON object as its data, blanks on both sides of the data, and a text behind
it in which no reference begins. -/
structure Spaced where
  name : List Char
  named : name ≠ []
  letters : ∀ c ∈ name, Reference.isNameChar c = true
  lead : List Char
  object : List Char
  entries : Mapping.Entries
  reads : Json.readFront object = .ok (.mapping entries, [])
  trail : List Char
  blanks : ∀ c ∈ lead ++ trail, isBlank c = true
  after : Gap

namespace Spaced

/-- What stands in front of the data. -/
def head (x : Spaced) : List Char := Reference.opening ++ (x.name ++ ':' :: x.lead)

/-- The reference up to the brace that ends it. -/
def source (x : Spaced) : List Char := x.head ++ (x.object ++ (x.trail ++ ['\x7d']))

def text (x : Spaced) : List Char := x.source ++ x.after.text

/-- The reference with all of its data, from its first character to the brace that ends it. -/
def own (x : Spaced) : Reference.Span := ⟨⟨x.name, .given x.entries⟩, 0, x.source.length⟩

/-- Two closing braces stand next to each other: the last one of the data and the one that ends the
reference, or two of the data, or two from the end of the reference on. -/
def Doubled (x : Spaced) : Prop :=
  x.trail = [] ∨ Reference.closing <:+: x.object ∨ Reference.closing <:+: '\x7d' :: x.after.text

variable (x : Spaced)

theorem object_eq : ∃ inner, x.object = '\x7b' :: (inner ++ ['\x7d']) :=
  Json.readFront_mapping x.reads

theorem leading : ∀ c ∈ x.lead, isBlank c = true := fun c listed =>
  x.blanks c (List.mem_append_left _ listed)

theorem trailing : ∀ c ∈ x.trail, isBlank c = true := fun c listed =>
  x.blanks c (List.mem_append_right _ listed)

/-- Between the marks of a reference there are no other marks. -/
theorem notMem_label {c : Char} (other : Reference.isNameChar c = false) (solid : isBlank c = false)
    (differs : c ≠ ':') : c ∉ x.name ++ ':' :: x.lead := by
  have letters := notMem_of_forall x.letters other
  have lead := notMem_of_forall x.leading solid
  simp [letters, lead, differs]

/-- What follows the data. -/
def behind (x : Spaced) : List Char := x.trail ++ '\x7d' :: x.after.text

/-- Behind the brace that opens the data these are all the places for two closing braces. -/
theorem doubled_iff {inner : List Char} (shape : x.object = '\x7b' :: (inner ++ ['\x7d'])) :
    x.Doubled ↔ Reference.closing <:+: inner ++ '\x7d' :: x.behind := by
  constructor
  · rintro (tight | inside | later)
    · exact ⟨inner, x.after.text, by simp [behind, tight, Reference.closing]⟩
    · have brace : '\x7d' ∉ ['\x7b'] := by decide
      rw [shape] at inside
      exact (infix_of_notMem brace inside).trans ⟨[], x.behind, by simp⟩
    · exact later.trans ⟨inner ++ '\x7d' :: x.trail, [], by simp [behind]⟩
  · intro inside
    -- A blank behind the data keeps the brace before it apart from the one after it.
    by_cases tight : x.trail = []
    · exact .inl tight
    refine .inr ?_
    obtain ⟨blank, trail, spaced⟩ := List.exists_cons_of_ne_nil tight
    have apart : '\x7d' ∉ blank :: trail := spaced ▸ notMem_of_forall x.trailing (by decide)
    rw [List.mem_cons, not_or] at apart
    have foreign : blank ∉ Reference.closing := by
      simp [Reference.closing, Ne.symm apart.1]
    have regroup : inner ++ '\x7d' :: x.behind
        = inner ++ ['\x7d'] ++ blank :: (trail ++ '\x7d' :: x.after.text) := by
      simp [behind, spaced]
    rw [regroup] at inside
    rcases infix_or_of_notMem foreign inside with braces | braces
    · exact .inl (shape ▸ braces.trans (List.suffix_cons _ _).isInfix)
    · exact .inr (infix_of_notMem apart.2 braces)

/-- The data is read whatever stands behind it, but it is looked at only before a doubled brace. -/
theorem inlineFront?_data {inner : List Char} (shape : x.object = '\x7b' :: (inner ++ ['\x7d'])) :
    Reference.inlineFront? (':' :: (x.lead ++ (x.object ++ x.behind)))
      = (cutAt? Reference.closing (inner ++ '\x7d' :: x.behind)).map fun _ =>
        (.given x.entries, x.after.text) := by
  have brace : isBlank '\x7b' = false := by decide
  have bare : isBlank '\x7d' = false := by decide
  have opened : (x.lead ++ (x.object ++ x.behind)).dropWhile isBlank
      = '\x7b' :: (inner ++ '\x7d' :: x.behind) := by
    rw [List.dropWhile_append_of_pos x.leading, shape]
    simp [brace]
  have closed : x.behind.dropWhile isBlank = '\x7d' :: x.after.text := by
    rw [behind, List.dropWhile_append_of_pos x.trailing]
    simp [bare]
  have read : Json.readFront ('\x7b' :: (inner ++ '\x7d' :: x.behind))
      = .ok (.mapping x.entries, x.behind) := by
    -- The data is read as it is alone, since a blank or a brace behind it ends a number.
    obtain ⟨front, whole, again⟩ := Json.readFront_local x.reads
    rw [List.append_nil] at whole
    have shown := again _ (Json.endsNumber_gap x.trailing (.inr (.inr rfl)) x.after.text)
    rw [← whole, shape] at shown
    simpa [behind] using shown
  rw [Reference.inlineFront?]
  simp only [opened]
  refine Option.map_congr fun cut _ => ?_
  simp only [Reference.readInline, read, closed]

theorem front?_text {inner : List Char} (shape : x.object = '\x7b' :: (inner ++ ['\x7d'])) :
    Reference.front? x.text
      = (cutAt? Reference.closing (inner ++ '\x7d' :: x.behind)).map fun _ =>
        (⟨x.name, .given x.entries⟩, x.after.text) := by
  obtain ⟨c, rest, named⟩ := List.exists_cons_of_ne_nil x.named
  have colon : Reference.isNameChar ':' = false := by decide
  obtain ⟨taken, left⟩ := name_front x.letters colon (x.lead ++ (x.object ++ x.behind))
  have regroup : x.text
      = Reference.opening ++ (x.name ++ ':' :: (x.lead ++ (x.object ++ x.behind))) := by
    simp [text, source, head, behind]
  rw [regroup, Reference.front?_cons (taken.trans named), left, x.inlineFront?_data shape, named,
    Option.map_map]
  rfl

/-- With a doubled brace the reference is found with all of its data, and nothing else. -/
theorem spans_of_doubled (doubled : x.Doubled) : Reference.spans x.text = pure [x.own] := by
  obtain ⟨inner, shape⟩ := x.object_eq
  obtain ⟨front, back, occurs⟩ := (x.doubled_iff shape).mp doubled
  have present := cutAt?_isSome Reference.closing front back
  rw [← List.append_assoc, occurs] at present
  obtain ⟨cut, found⟩ := Option.isSome_iff_exists.mp present
  have read : Reference.scanner.run (x.source ++ x.after.text)
      = some (⟨x.name, .given x.entries⟩, x.after.text) := by
    show Reference.front? x.text = _
    rw [x.front?_text shape, found]
    rfl
  have pieces : Reference.scanner.pieces x.text
      = .found ⟨x.name, .given x.entries⟩ x.source :: x.after.text.map Piece.plain := by
    rw [text, Scanner.pieces_found read, pieces_gap]
  -- Nothing is reported: the data is a mapping, and no reference stands behind it.
  have quiet : Reference.reportAll (Reference.scanner.pieces x.text) = pure () := by
    have behind := Reference.reportAll_text x.after.text []
    rw [List.append_nil] at behind
    rw [pieces, Reference.reportAll, behind]
    rfl
  have last : Reference.spansFrom x.source.length (x.after.text.map Piece.plain) = [] := by
    have plain := spansFrom_plain x.source.length x.after.text []
    rwa [List.append_nil] at plain
  rw [Reference.spans, Reference.pieces, quiet, pure_bind, pure_bind, pieces, Reference.spansFrom,
    Nat.zero_add, last]
  rfl

/-- Without one the reference is plain text up to its data. -/
theorem pieces_of_undoubled (undoubled : ¬ x.Doubled) :
    Reference.scanner.pieces x.text = x.head.map Piece.plain
      ++ (Reference.scanner.pieces x.object ++ x.behind.map Piece.plain) := by
  obtain ⟨inner, shape⟩ := x.object_eq
  have absent : ¬ Reference.closing <:+: inner ++ '\x7d' :: x.behind := fun inside =>
    undoubled ((x.doubled_iff shape).mpr inside)
  -- The scanner fails at the mark itself, and then finds no other mark up to the data.
  have missing : cutAt? Reference.closing (inner ++ '\x7d' :: x.behind) = none := by
    cases cut : cutAt? Reference.closing (inner ++ '\x7d' :: x.behind) with
    | none => rfl
    | some parts => exact absurd ⟨_, _, (cutAt?_eq_append cut).symm⟩ absent
  have first : Reference.front? x.text = none := by
    rw [x.front?_text shape, missing, Option.map_none]
  have marker : '@' ∉ '\x7b' :: (x.name ++ ':' :: x.lead) := by
    rw [List.mem_cons, not_or]
    exact ⟨by decide, x.notMem_label (by decide) (by decide) (by decide)⟩
  have quiet : Skips Reference.scanner.run x.head (x.object ++ x.behind) := by
    refine .cons ?_ (.of_not_mem Reference.steady.needs marker _)
    have whole : '@' :: ('\x7b' :: (x.name ++ ':' :: x.lead) ++ (x.object ++ x.behind)) = x.text := by
      simp [text, source, head, behind, Reference.opening]
    rw [← whole] at first
    exact first
  -- What stands behind the data has no reference either.
  let remaining : Gap := ⟨x.behind, fun inside => by
    have trail : '@' ∉ x.trail ++ ['\x7d'] := by
      have plain : '@' ∉ x.trail := notMem_of_forall x.trailing (by decide)
      simp [plain]
    have regroup : x.behind = x.trail ++ ['\x7d'] ++ x.after.text := by simp [behind]
    rw [regroup] at inside
    exact x.after.plain (infix_of_notMem trail inside)⟩
  have braced : '\x7d' ∉ ['\x7b'] := by decide
  have cut := pieces_append_brace ('\x7b' :: inner) (fun inside =>
    absent (infix_of_notMem braced inside)) (pieces_gap remaining)
  have regroup : x.text = x.head ++ (x.object ++ x.behind) := by simp [text, source, behind]
  rw [regroup, Scanner.pieces_skip quiet, shape]
  simp only [List.cons_append, List.append_assoc] at cut ⊢
  exact congrArg _ cut

theorem text_undoubled (undoubled : ¬ x.Doubled) : ¬ Reference.closing <:+: x.text := by
  obtain ⟨inner, shape⟩ := x.object_eq
  have brace : '\x7d' ∉ x.head ++ ['\x7b'] := by
    have label : '\x7d' ∉ x.name ++ ':' :: x.lead :=
      x.notMem_label (by decide) (by decide) (by decide)
    rw [head, Reference.opening, List.mem_append, List.mem_append, not_or, not_or]
    exact ⟨⟨by decide, label⟩, by decide⟩
  have regroup : x.text = x.head ++ ['\x7b'] ++ (inner ++ '\x7d' :: x.behind) := by
    simp [text, source, shape, behind]
  rw [regroup]
  exact fun inside => undoubled ((x.doubled_iff shape).mpr (infix_of_notMem brace inside))

/-- A reference with blanks around its data is found, with its data and up to its last brace, exactly
if two closing braces stand next to each other behind the brace that opens the data. Else it is not
found: what is found are the names without data that stand in a reference inside its data. -/
theorem spans_spaced (x : Spaced) :
    (Reference.spans x.text = pure [x.own] ↔ x.Doubled) ∧
    (¬ x.Doubled → ∃ others, Reference.spans x.text = pure others
      ∧ others = Reference.spansFrom x.head.length (Reference.scanner.pieces x.object)
      ∧ ∀ span ∈ others, span.reference.inline = .absent ∧ span.start ≠ x.own.start) := by
  have hidden (undoubled : ¬ x.Doubled) : Reference.spans x.text
      = pure (Reference.spansFrom x.head.length (Reference.scanner.pieces x.object)) := by
    have quiet := reportAll_absent (absent_of_undoubled (x.text_undoubled undoubled))
    rw [Reference.spans, Reference.pieces, quiet, pure_bind, pure_bind,
      x.pieces_of_undoubled undoubled, spansFrom_plain, Nat.zero_add, spansFrom_append_plain]
  have elsewhere : ∀ span ∈ Reference.spansFrom x.head.length (Reference.scanner.pieces x.object),
      span.start ≠ x.own.start := by
    intro span listed
    have later := le_start_of_mem listed
    have filled : 0 < x.head.length := by simp [head, Reference.opening]
    exact Nat.ne_of_gt (Nat.lt_of_lt_of_le filled later)
  refine ⟨⟨fun found => ?_, x.spans_of_doubled⟩, fun undoubled => ⟨_, hidden undoubled, rfl, ?_⟩⟩
  · -- A reference that is found begins with the text, what is found in its data does not.
    by_contra undoubled
    rw [hidden undoubled] at found
    have same := congrArg Reported.outcome found
    simp only [Reported.outcome_pure, Except.ok.injEq] at same
    exact elsewhere x.own (same ▸ List.mem_singleton_self _) rfl
  · intro span listed
    have inner : ¬ Reference.closing <:+: x.object := fun inside => undoubled (.inr (.inl inside))
    have item : span.reference ∈ Renderer.items (Reference.scanner.pieces x.object) := by
      rw [← items_spansFrom x.head.length]
      exact List.mem_map.mpr ⟨span, listed, rfl⟩
    exact ⟨absent_of_undoubled inner _ item, elsewhere span listed⟩

theorem readFront_card :
    Json.readFront "\x7b\"x\": null\x7d".toList = .ok (.mapping [(.str "x", .null)], []) := by
  have exact : Json.Exact (.mapping (Json.named [("x", .null)])) := by
    refine .mapping (by decide) fun member inside => ?_
    cases List.mem_singleton.mp inside
    exact .null
  have shown : Template.stringify (.mapping [(.str "x", .null)])
      = .ok "\x7b\"x\": null\x7d".toList := by cbv
  have ends : Json.EndsNumber [] := fun _ first => by cases first
  have read := Json.readFront_written exact shown ends
  rwa [List.append_nil] at read

/-- A reference with a blank behind its data. -/
def card (after : Gap) : Spaced where
  name := ['N']
  named := List.cons_ne_nil _ _
  letters := List.all_eq_true.mp rfl
  lead := [' ']
  object := "\x7b\"x\": null\x7d".toList
  entries := [(.str "x", .null)]
  reads := readFront_card
  trail := [' ']
  blanks := List.all_eq_true.mp rfl
  after := after

/-- With a blank behind its data a reference is not found, unless a doubled brace happens to stand in
the text behind it. -/
theorem spans_spaced_card :
    Reference.spans "@\x7bN: \x7b\"x\": null\x7d \x7d".toList = pure [] ∧
    Reference.spans "@\x7bN: \x7b\"x\": null\x7d \x7d x\x7d\x7d".toList
      = pure [⟨⟨['N'], .given [(.str "x", .null)]⟩, 0, 18⟩] := by
  constructor
  · let alone := card ⟨[], by decide⟩
    have undoubled : ¬ alone.Doubled := by
      rintro (tight | inside | behind)
      · exact List.cons_ne_nil _ _ tight
      · exact absurd inside (by decide)
      · exact absurd behind (by decide)
    obtain ⟨others, found, rfl, -⟩ := (spans_spaced alone).2 undoubled
    have nothing : Reference.scanner.pieces alone.object = alone.object.map Piece.plain := by
      exact pieces_gap ⟨alone.object, by decide⟩
    have plain := spansFrom_append_plain alone.head.length [] alone.object
    rw [nothing] at found
    exact found.trans (congrArg pure plain)
  · let followed := card ⟨" x\x7d\x7d".toList, by decide⟩
    have found := (spans_spaced followed).1.mpr (.inr (.inr (by decide)))
    have text : followed.text = "@\x7bN: \x7b\"x\": null\x7d \x7d x\x7d\x7d".toList := rfl
    rwa [text] at found

end Spaced

end StaticSite.Component
