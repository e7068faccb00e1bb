import StaticSite.Proofs.Agreement
import StaticSite.Proofs.Markup.Matching
import StaticSite.Proofs.Template.Tokens
import StaticSite.Proofs.Value.Lookup

/-!
# Templates with the tokens of two stores

The template pass makes matching texts of matching texts, or meets the same fault in both. Markers
stand in the same places; a condition or a collection without a percent sign is the same text; and a
path that a token stands in leads nowhere, in whichever store the token is. What is printed of
values without percent signs holds no token at all.
-/

namespace StaticSite.Template

open StaticSite.Text StaticSite.Markup
open StaticSite.Markup.Store (Matched Cuts Finds Both isSharp isTokenChar)

variable {first second : Store} {evaluate : Evaluator} {mode : PlaceholderMode} {scope : Scope}
  {s t : List Char}

/-! ### Conditionals -/

/-- Two items are the same marker, each read from its text. -/
def SameMarker (a : Marker) (source : List Char) (b : Marker) (other : List Char) : Prop :=
  a = b ∧ source = a.text ∧ other = b.text

theorem finds_markers (matched : Matched first second s t) :
    Finds first second SameMarker markers s t := by
  have each (marker : Marker) :
      Option.Rel (Matched first second) (dropFront? marker.text s) (dropFront? marker.text t) := by
    refine matched.dropFront? ?_
    cases marker <;> decide
  -- The markers are tried in order, and each is there in both texts or in neither.
  have found : Option.Rel (fun a b => Matched first second a.2 b.2 ∧ a.1 = b.1)
      (markerFront? s) (markerFront? t) := by
    unfold markerFront?
    generalize [Marker.opening, Marker.otherwise, Marker.closing] = all
    induction all with
    | nil => exact .none
    | cons marker all ih =>
      simp only [List.findSome?_cons]
      rcases rel_cases (each marker) with ⟨here, there⟩ | ⟨_, _, here, there, rests⟩
      · rw [here, there]
        exact ih
      · rw [here, there]
        exact .some ⟨rests, rfl⟩
  unfold Finds
  simp only [markers]
  rcases rel_cases found with ⟨here, there⟩ | ⟨a, b, here, there, rests, same⟩
  · rw [here, there]
    exact .none
  · rw [here, there]
    refine .some ⟨rests, fun source other shape form => ⟨same, ?_, ?_⟩⟩
    · exact List.append_cancel_right (shape.symm.trans (markerFront?_eq_append here))
    · exact List.append_cancel_right (form.symm.trans (markerFront?_eq_append there))

theorem markers_cuts (matched : Matched first second s t) (one : first.Lettered)
    (two : second.Lettered) :
    Cuts first second SameMarker (markers.pieces s) (markers.pieces t) :=
  matched.pieces one two markerFront?_plain (by decide) (fun matched _ => finds_markers matched)
    (fun _ _ _ => trivial)

theorem sourceOf_matched {p q : List (Piece Marker)} (cuts : Cuts first second SameMarker p q) :
    Matched first second (sourceOf p) (sourceOf q) := by
  refine cuts.flatMap (fun _ => rfl) fun {a source b other} same => ?_
  obtain ⟨rfl, rfl, rfl⟩ := same
  refine .of_notMem ?_
  cases a <;> decide

/-- The branches of two matching texts match, and so do the pieces behind them. -/
theorem branches_matched (depth : Nat) (split : Bool) {p q : List (Piece Marker)}
    (cuts : Cuts first second SameMarker p q) :
    Option.Rel (fun a b => Matched first second a.1 b.1 ∧ Matched first second a.2.1 b.2.1
      ∧ Cuts first second SameMarker a.2.2 b.2.2)
      (branches depth split p) (branches depth split q) := by
  have keep {split : Bool} {s t : List Char} {a b : List Char × List Char × List (Piece Marker)}
      (matched : Matched first second s t) (found : Matched first second a.1 b.1
        ∧ Matched first second a.2.1 b.2.1 ∧ Cuts first second SameMarker a.2.2 b.2.2) :
      Matched first second (keepText split s a).1 (keepText split t b).1
        ∧ Matched first second (keepText split s a).2.1 (keepText split t b).2.1
        ∧ Cuts first second SameMarker (keepText split s a).2.2 (keepText split t b).2.2 := by
    obtain ⟨front, back, rest⟩ := found
    cases split
    · exact ⟨matched.append front, back, rest⟩
    · exact ⟨front, matched.append back, rest⟩
  induction cuts generalizing depth split with
  | nil => exact .none
  | @text s t p q matched _ ih =>
    rw [branches_plain, branches_plain]
    exact rel_map (ih depth split) (keep matched)
  | @found a b source other p q same rest ih =>
    obtain ⟨rfl, rfl, rfl⟩ := same
    have plain : '%' ∉ a.text := by cases a <;> decide
    -- An inner marker goes to the branch that it stands in.
    have kept (inside : Nat) (met : Bool) : Option.Rel (fun a b => Matched first second a.1 b.1
        ∧ Matched first second a.2.1 b.2.1 ∧ Cuts first second SameMarker a.2.2 b.2.2)
        ((branches inside met p).map (branches.keep split (.found a a.text)))
        ((branches inside met q).map (branches.keep split (.found a a.text))) :=
      rel_map (ih inside met) (keep (.of_notMem plain))
    cases a with
    | opening => exact kept (depth + 1) split
    | otherwise =>
      cases depth with
      | zero =>
        cases split with
        | true => exact kept 0 true
        | false => exact ih 0 true
      | succ depth => exact kept (depth + 1) split
    | closing =>
      cases depth with
      | zero => exact .some ⟨.nil, .nil, rest⟩
      | succ depth => exact kept depth split

/-- The branches of a conditional stand one after the other in its text. -/
theorem branches_parts {depth : Nat} {split : Bool} {pieces after : List (Piece Marker)}
    {first second : List Char} (found : branches depth split pieces = some (first, second, after)) :
    ∃ turn close, sourceOf pieces = first ++ (turn ++ (second ++ (close ++ sourceOf after)))
      ∧ (split = true → first = [] ∧ turn = []) := by
  induction pieces generalizing depth split first second after with
  | nil => simp [branches] at found
  | cons piece pieces ih =>
    have kept {inside : Nat} (inner : (branches inside split pieces).map (branches.keep split piece)
        = some (first, second, after)) :
        ∃ turn close, sourceOf (piece :: pieces)
          = first ++ (turn ++ (second ++ (close ++ sourceOf after)))
          ∧ (split = true → first = [] ∧ turn = []) := by
      obtain ⟨⟨front, back, rest⟩, read, same⟩ := Option.map_eq_some_iff.mp inner
      obtain ⟨turn, close, whole, still⟩ := ih read
      have source : sourceOf (piece :: pieces) = piece.source ++ sourceOf pieces := rfl
      cases split with
      | false =>
        cases same
        exact ⟨turn, close, by rw [source, whole]; simp, fun met => absurd met Bool.false_ne_true⟩
      | true =>
        cases same
        obtain ⟨rfl, rfl⟩ := still rfl
        exact ⟨[], close, by rw [source, whole]; simp, fun _ => ⟨rfl, rfl⟩⟩
    simp only [branches] at found
    split at found
    next source =>
      cases found
      exact ⟨[], source, rfl, fun _ => ⟨rfl, rfl⟩⟩
    next => exact kept found
    next => exact kept found
    next source =>
      split at found
      next met =>
        subst met
        exact kept found
      next met =>
        -- The marker that splits the branches belongs to neither.
        obtain ⟨turn, close, whole, still⟩ := ih found
        obtain ⟨rfl, rfl⟩ := still rfl
        have front : sourceOf (.found .otherwise source :: pieces) = source ++ sourceOf pieces :=
          rfl
        exact ⟨source, close, by rw [front, whole]; simp, fun split => absurd split met⟩
    next => exact kept found

/-- No header of a conditional holds a percent sign: none stands between an `@if(` and the
parenthesis that closes it. -/
def PercentFreeConditions (s : List Char) : Prop :=
  ∀ before header after, s = before ++ (ifOpening ++ (header ++ ')' :: after)) → ')' ∉ header →
    '%' ∉ header

theorem PercentFreeConditions.of_infix (free : PercentFreeConditions t) (inside : s <:+: t) :
    PercentFreeConditions s := by
  obtain ⟨front, back, rfl⟩ := inside
  rintro before header after rfl shut
  exact free (front ++ before) header (after ++ back) (by simp) shut

theorem conditional?_parts {rest : List Char} {block : Conditional}
    (found : conditional? s = some (block, rest)) :
    block.whenTrue <:+: s ∧ block.whenFalse <:+: s ∧ rest <:+: s := by
  obtain ⟨cut, split, found⟩ := Option.bind_eq_some_iff.mp found
  obtain ⟨⟨first, second, after⟩, read, same⟩ := Option.map_eq_some_iff.mp found
  cases same
  obtain ⟨turn, close, whole, -⟩ := branches_parts read
  have body : sourceOf (markers.pieces cut.2) = cut.2 := markers.source_pieces cut.2
  rw [body] at whole
  have shape := cutAt?_eq_append split
  rw [whole] at shape
  refine ⟨⟨cut.1 ++ [')'], turn ++ (second ++ (close ++ sourceOf after)), ?_⟩,
    ⟨cut.1 ++ [')'] ++ first ++ turn, close ++ sourceOf after, ?_⟩,
    ⟨cut.1 ++ [')'] ++ first ++ turn ++ second ++ close, [], ?_⟩⟩
  all_goals
    rw [shape]
    simp

theorem conditional?_matched (matched : Matched first second s t) (one : first.Lettered)
    (two : second.Lettered)
    (clear : ∀ header after, s = header ++ ')' :: after → ')' ∉ header → '%' ∉ header) :
    Option.Rel (fun a b => a.1.condition = b.1.condition
      ∧ Matched first second a.1.whenTrue b.1.whenTrue
      ∧ Matched first second a.1.whenFalse b.1.whenFalse ∧ Matched first second a.2 b.2)
      (conditional? s) (conditional? t) := by
  have cut := matched.cutAt? one two (by decide : isSharp [')'] = true)
  unfold conditional?
  rcases rel_cases cut with ⟨here, there⟩ | ⟨front, back, here, there, both⟩
  · rw [here, there]
    exact .none
  -- The condition is the text up to the first parenthesis, and it is the same in both.
  have plain : '%' ∉ front.1 := by
    refine clear front.1 front.2 ?_ (cutAt?_char_notMem here)
    rw [cutAt?_eq_append here]
    simp
  rw [here, there, Option.bind_some, Option.bind_some, ← both.1.eq_of_notMem plain]
  exact rel_map (branches_matched 0 false (markers_cuts both.2 one two))
    fun ⟨whenTrue, whenFalse, rest⟩ => ⟨rfl, whenTrue, whenFalse, sourceOf_matched rest⟩

theorem resolveFrom_matched {place other : Nat} (matched : Matched first second s t)
    (one : first.Lettered) (two : second.Lettered) (clear : PercentFreeConditions s) :
    Agree (Matched first second) (resolveFrom evaluate scope place s).outcome
      (resolveFrom evaluate scope other t).outcome := by
  induction size : s.length using Nat.strongRecOn generalizing s t place other with
  | ind n ih =>
    have cut := matched.cutAt? one two (by decide : isSharp ifOpening = true)
    rcases rel_cases cut with ⟨here, there⟩ | ⟨⟨before, after⟩, ⟨ahead, behind⟩, here, there, both⟩
    · rw [resolveFrom_whole place here, resolveFrom_whole other there]
      exact .ok matched
    obtain ⟨front, inside⟩ := both
    have shape := cutAt?_eq_append here
    have length := congrArg List.length shape
    simp only [List.length_append] at length
    have header : ∀ header rest, after = header ++ ')' :: rest → ')' ∉ header →
        '%' ∉ header := by
      rintro header rest rfl shut
      exact clear before header rest (by rw [shape, List.append_assoc]) shut
    rcases rel_cases (conditional?_matched inside one two header) with
      ⟨closed, shut⟩ | ⟨⟨block, rest⟩, ⟨copy, left⟩, closed, shut, same, whenTrue, whenFalse, rests⟩
    · rw [resolveFrom_unclosed place here closed, resolveFrom_unclosed other there shut]
      exact .ok matched
    have shorter : block.whenTrue.length + block.whenFalse.length + rest.length < after.length :=
      conditional?_length closed
    obtain ⟨yes, no, last⟩ := conditional?_parts closed
    have within {part : List Char} (inner : part <:+: after) : PercentFreeConditions part := by
      refine clear.of_infix (inner.trans ?_)
      rw [shape]
      exact (List.suffix_append _ _).isInfix
    -- Only the branch that is taken is resolved.
    have joined {branch copy : List Char} (part : Matched first second branch copy)
        (inner : branch <:+: after) (less : branch.length < n) :
        Agree (Matched first second)
          (resolveFrom evaluate scope 0 branch >>= fun text =>
            resolveFrom evaluate scope (place + s.length - rest.length) rest >>= fun tail =>
              pure (before ++ text ++ tail)).outcome
          (resolveFrom evaluate scope 0 copy >>= fun text =>
            resolveFrom evaluate scope (other + t.length - left.length) left >>= fun tail =>
              pure (ahead ++ text ++ tail)).outcome := by
      rw [Reported.outcome_bind, Reported.outcome_bind]
      refine (ih branch.length less part (within inner) rfl).bind fun _ _ middle => ?_
      rw [Reported.outcome_bind, Reported.outcome_bind]
      refine (ih rest.length (by omega) rests (within last) rfl).bind fun _ _ tail => ?_
      exact .ok ((front.append middle).append tail)
    rw [resolveFrom_closed place here closed, resolveFrom_closed other there shut, ← same,
      Reported.outcome_bind, Reported.outcome_bind]
    have holds : Agree Eq (holds evaluate block.condition scope).outcome
        (holds evaluate block.condition scope).outcome := .refl _ fun _ _ => rfl
    refine holds.bind fun {taken again} _ _ equal => ?_
    subst equal
    cases taken with
    | true => exact joined whenTrue yes (by omega)
    | false => exact joined whenFalse no (by omega)

/-! ### Paths -/

/-- No name of a scope holds the beginning of a token. -/
def TokenFreeNames (store : Store) (scope : Scope) : Prop :=
  ∀ name ∈ Mapping.names scope, ¬ store.tokenStart <:+: name.toList

/-- A nonce that stands in no name keeps all names apart from its tokens. -/
theorem TokenFreeNames.of_nonce {store : Store}
    (apart : ∀ name ∈ Mapping.names scope, ¬ store.nonce <:+: name.toList) :
    TokenFreeNames store scope := by
  intro name listed inside
  exact apart name listed (store.nonce_infix_tokenStart.trans inside)

theorem TokenFreeNames.mono {store later : Store} (free : TokenFreeNames store scope)
    (grown : store.Extends later) : TokenFreeNames later scope := by
  intro name listed inside
  rw [Store.tokenStart_eq, grown.nonce, ← Store.tokenStart_eq] at inside
  exact free name listed inside

theorem percent_notMem_names {entries : Mapping.Entries} {name : String}
    (free : Value.EntriesPercentFree entries) (listed : name ∈ Mapping.names entries) :
    '%' ∉ name.toList := by
  obtain ⟨⟨key, value⟩, here, named⟩ := List.mem_filterMap.mp listed
  have plain := (Value.entriesPercentFree_iff.mp free _ here).1
  cases key with
  | str text | markup text =>
    cases named
    exact plain
  | _ => contradiction

/-- A segment with a percent sign leads nowhere from a value without. -/
theorem child?_percent {current : Value} {segment : List Char} (free : current.PercentFree)
    (inside : '%' ∈ segment) : child? current segment = .ok none := by
  have unnumbered : segment.all isDigit = false := by
    rw [List.all_eq_false]
    exact ⟨'%', inside, by decide⟩
  cases current with
  | mapping entries =>
    rw [child?, Mapping.get?_eq_none]
    intro listed
    have plain := percent_notMem_names free listed
    rw [String.toList_ofList] at plain
    exact plain inside
  | list items | tuple items => simp [child?, unnumbered]
  | _ => rfl

/-- Matching paths lead from a value without percent signs to the same. -/
theorem walk_matched {current : Value} {path other : List (List Char)}
    (free : current.PercentFree) (matched : List.Forall₂ (Matched first second) path other) :
    walk current path = walk current other := by
  induction matched generalizing current with
  | nil => rfl
  | @cons segment copy path other here _ ih =>
    rw [walk, walk]
    by_cases inside : '%' ∈ segment
    · rw [child?_percent free inside, child?_percent free (here.percent_mem inside)]
      rfl
    · -- Without a token the segments are the same.
      rw [← here.eq_of_notMem inside]
      cases found : child? current segment with
      | error fault => rfl
      | ok next =>
        cases next with
        | none => rfl
        | some next => exact ih (child?_percentFree free found)

theorem resolvePath_matched {path other : List Char} (free : PercentFreeScope scope)
    (one : first.Lettered) (two : second.Lettered) (names : TokenFreeNames first scope)
    (others : TokenFreeNames second scope) (matched : Matched first second path other) :
    resolvePath scope path = resolvePath scope other := by
  have split : List.Forall₂ (Matched first second) (segments path) (segments other) :=
    matched.trim.splitOn one two (by decide)
  rw [resolvePath, resolvePath]
  generalize segments path = parts, segments other = copies at split
  cases split with
  | nil => rfl
  | @cons segment copy path other here rest =>
    rw [walk, walk]
    by_cases inside : '%' ∈ segment
    · -- The token cannot stand in a name of the scope, whichever store it is of.
      have absent {store : Store} {segment : List Char} (names : TokenFreeNames store scope)
          (token : store.tokenStart <:+: segment) : child? (.mapping scope) segment = .ok none := by
        rw [child?, Mapping.get?_eq_none]
        intro listed
        have apart := names _ listed
        rw [String.toList_ofList] at apart
        exact apart token
      rw [absent names (here.tokenStart_infix inside),
        absent others (here.symm.tokenStart_infix (here.percent_mem inside))]
      rfl
    · rw [← here.eq_of_notMem inside]
      cases found : child? (.mapping scope) segment with
      | error fault => rfl
      | ok next =>
        cases next with
        | none => rfl
        | some next =>
          rw [child?, Except.ok.injEq] at found
          exact walk_matched (get?_percentFree free found) rest

/-! ### Texts on one line -/

/-- The text on one line up to the next mark behind its first character, and what follows. -/
def lineCut? (mark : Char) : List Char → Option (List Char × List Char)
  | [] => none
  | c :: s => ((cutAt? [mark] s).map fun cut => (c :: cut.1, cut.2)).filter
      fun cut => !cut.1.elem '\n'

theorem lineCut?_matched {mark : Char} (matched : Matched first second s t) (one : first.Lettered)
    (two : second.Lettered) (foreign : isTokenChar mark = false) :
    Option.Rel (Both first second) (lineCut? mark s) (lineCut? mark t) := by
  have line {a b : Option (List Char × List Char)} (found : Option.Rel (Both first second) a b) :
      Option.Rel (Both first second) (a.filter fun cut => !cut.1.elem '\n')
        (b.filter fun cut => !cut.1.elem '\n') := by
    rcases rel_cases found with ⟨rfl, rfl⟩ | ⟨a, b, rfl, rfl, both⟩
    · exact .none
    · have same : a.1.elem '\n' = b.1.elem '\n' := by
        rw [Bool.eq_iff_iff, List.elem_iff, List.elem_iff]
        exact ⟨both.1.mem one (by decide), both.1.symm.mem two (by decide)⟩
      rw [Option.filter_some, Option.filter_some, ← same]
      split
      · exact .some both
      · exact .none
  have sharp : isSharp [mark] = true := by simp [isSharp, foreign]
  cases matched with
  | nil => exact .none
  | plain differs rest =>
    exact line (Matched.push (.plain differs .nil) (rest.cutAt? one two sharp))
  | @token place other fragment s t here there rest =>
    -- The mark is not the first character of a token, so the cut is that of the whole text.
    have apart : mark ≠ '%' := by
      rintro rfl
      contradiction
    have whole (store : Store) (place : Nat) (rest : List Char) :
        lineCut? mark (store.token place ++ rest)
          = (cutAt? [mark] (store.token place ++ rest)).filter fun cut => !cut.1.elem '\n' := by
      rw [Store.token_eq, Store.tokenStart_eq, List.cons_append, List.cons_append, lineCut?, cutAt?,
        dropFront?_cons_ne _ _ (Ne.symm apart)]
    rw [whole, whole]
    exact line ((Matched.token here there rest).cutAt? one two sharp)

/-! ### Placeholders -/

theorem placeholderFront?_eq (s : List Char) :
    placeholderFront? s = (dropFront? placeholderOpening s).bind (lineCut? ']') := by
  unfold placeholderFront?
  cases dropFront? placeholderOpening s with
  | none => rfl
  | some body =>
    cases body with
    | nil => rfl
    | cons c body =>
      simp only [Option.bind_some, lineCut?]
      cases cutAt? [']'] body with
      | none => simp
      | some cut =>
        by_cases feed : c = '\n'
        · simp [feed, Option.filter]
        · simp [feed, Option.filter, Ne.symm feed]

theorem finds_placeholders (matched : Matched first second s t) (one : first.Lettered)
    (two : second.Lettered) :
    Finds first second (fun path _ other _ => Matched first second path other) placeholders s
      t := by
  have front := matched.dropFront? (by decide : '%' ∉ placeholderOpening)
  unfold Finds
  simp only [placeholders, placeholderFront?_eq]
  refine rel_bind front fun body => ?_
  exact rel_mono (lineCut?_matched body one two (by decide : isTokenChar ']' = false))
    fun both => ⟨both.2, fun _ _ _ _ => both.1⟩

theorem placeholderText_matched {path other : List Char} (free : PercentFreeScope scope)
    (one : first.Lettered) (two : second.Lettered) (names : TokenFreeNames first scope)
    (others : TokenFreeNames second scope) (matched : Matched first second path other) :
    Agree (Matched first second) (placeholderText mode scope path)
      (placeholderText mode scope other) := by
  have same := resolvePath_matched free one two names others matched
  unfold placeholderText
  rw [← same]
  cases found : resolvePath scope path with
  | error fault => exact .error fault
  | ok value =>
    cases value with
    | some value =>
      -- What is filled in has no percent sign, so it is the same text in both.
      refine .refl _ fun text printed => .of_notMem ?_
      exact percent_notMem_stringify value (resolvePath_percentFree free found) printed
    | none =>
      cases mode with
      | silent => exact .ok .nil
      | strict =>
        have opened : Matched first second "[[UNRESOLVED:".toList "[[UNRESOLVED:".toList :=
          .of_notMem (by decide)
        exact .ok ((opened.append matched).append (.of_notMem (by decide)))

theorem fillPlaceholders_matched (free : PercentFreeScope scope) (one : first.Lettered)
    (two : second.Lettered) (names : TokenFreeNames first scope)
    (others : TokenFreeNames second scope) (matched : Matched first second s t) :
    Agree (Matched first second) (fillPlaceholders mode scope s)
      (fillPlaceholders mode scope t) := by
  have cuts : Cuts first second (fun path _ other _ => Matched first second path other)
      (placeholders.pieces s) (placeholders.pieces t) :=
    matched.pieces one two placeholderFront?_plain (by decide)
      (fun matched _ => finds_placeholders matched one two) fun _ _ _ => trivial
  unfold fillPlaceholders
  generalize placeholders.pieces s = pieces, placeholders.pieces t = copies at cuts
  induction cuts with
  | nil => exact .ok .nil
  | text matched _ ih =>
    rw [fillPieces_text, fillPieces_text]
    exact ih.map fun _ _ rest => matched.append rest
  | found path _ ih =>
    refine (placeholderText_matched free one two names others path).bind fun _ _ shown => ?_
    exact ih.bind fun _ _ rest => .ok (shown.append rest)

/-! ### Loops -/

/-- Loops over the same collection, whose bodies match. -/
structure MatchedLoops (first second : Store) (loop copy : Loop) : Prop where
  name : loop.name = copy.name
  plain : '%' ∉ loop.name
  collection : Matched first second loop.collection copy.collection
  body : Matched first second loop.body copy.body

/-- The collection, the body and what follows a loop, each matching the other. -/
abbrev Sections (first second : Store)
    (a b : (List Char × List Char) × List Char) : Prop :=
  Matched first second a.1.1 b.1.1 ∧ Matched first second a.1.2 b.1.2
    ∧ Matched first second a.2 b.2

theorem collectionFront?_eq (s : List Char) : collectionFront? s
    = (lineCut? ')' s).bind fun cut =>
      (cutAt? eachClosing cut.2).map fun body => ((cut.1, body.1), body.2) := by
  cases s with
  | nil => rfl
  | cons c s =>
    simp only [collectionFront?, lineCut?]
    cases cutAt? [')'] s with
    | none => simp
    | some cut =>
      by_cases feed : c = '\n'
      · simp [feed, Option.filter]
      · by_cases inside : '\n' ∈ cut.1
        · simp [feed, inside, Option.filter, Ne.symm feed]
        · simp [feed, inside, Option.filter, Ne.symm feed]

theorem collectionFront?_matched (matched : Matched first second s t) (one : first.Lettered)
    (two : second.Lettered) :
    Option.Rel (Sections first second) (collectionFront? s) (collectionFront? t) := by
  rw [collectionFront?_eq, collectionFront?_eq]
  refine rel_bind (lineCut?_matched matched one two (by decide : isTokenChar ')' = false))
    fun header => ?_
  exact rel_map (header.2.cutAt? one two (by decide : isSharp eachClosing = true))
    fun body => ⟨header.1, body⟩

/-- The blanks of a gap are the same in both texts. -/
theorem afterGap?_matched {gap : List Char} {blanks : Nat} (matched : Matched first second s t)
    (one : first.Lettered) (two : second.Lettered) (plain : '%' ∉ gap)
    (few : blanks ≤ gap.length) :
    Option.Rel (Sections first second) (afterGap? (gap ++ s) blanks)
      (afterGap? (gap ++ t) blanks) := by
  induction blanks with
  | zero => exact .none
  | succ blanks ih =>
    -- What is dropped are blanks of the gap, and the gap is the same in both texts.
    have left : Matched first second ((gap ++ s).drop (blanks + 1))
        ((gap ++ t).drop (blanks + 1)) := by
      rw [List.drop_append_of_le_length few, List.drop_append_of_le_length few]
      exact (Matched.of_notMem fun inside => plain (List.mem_of_mem_drop inside)).append matched
    rw [afterGap?, afterGap?]
    rcases rel_cases (collectionFront?_matched left one two) with
      ⟨here, there⟩ | ⟨_, _, here, there, parts⟩
    · rw [here, there]
      exact ih (Nat.le_of_succ_le few)
    · rw [here, there]
      exact .some parts

theorem finds_loops (matched : Matched first second s t) (one : first.Lettered)
    (two : second.Lettered) :
    Finds first second (fun loop _ copy _ => MatchedLoops first second loop copy) loops s t := by
  have front := matched.dropFront? (by decide : '%' ∉ eachOpening)
  unfold Finds
  simp only [loops, loopFront?]
  refine rel_bind front fun {header other} inner => ?_
  have after := inner.dropWhile (by decide : isWord '%' = false)
  have word : '%' ∉ header.takeWhile isWord := fun inside =>
    absurd (List.mem_takeWhile_imp inside) (by decide)
  rw [← inner.takeWhile_eq (by decide : isWord '%' = false)]
  generalize header.takeWhile isWord = name, header.dropWhile isWord = rest,
    other.dropWhile isWord = left at word after
  cases name with
  | nil => exact .none
  | cons c name =>
    cases after with
    | nil => exact .none
    | token =>
      -- A token is no blank, so it cannot end the name.
      simp only [Store.token_eq, Store.tokenStart_eq, List.cons_append]
      exact .none
    | @plain blank rest left differs later =>
      dsimp only
      split
      next =>
        refine rel_bind ((later.dropWhile (by decide)).dropFront? (by decide))
          fun {gap space} spaced => ?_
        have same : gap.takeWhile isBlank = space.takeWhile isBlank :=
          spaced.takeWhile_eq (by decide)
        have plain : '%' ∉ gap.takeWhile isBlank := fun inside =>
          absurd (List.mem_takeWhile_imp inside) (by decide)
        have found := afterGap?_matched (spaced.dropWhile (by decide : isBlank '%' = false)) one two
          plain (Nat.le_refl _)
        rw [List.takeWhile_append_dropWhile, same, List.takeWhile_append_dropWhile] at found
        rw [same]
        exact rel_map found fun read =>
          ⟨read.2.2, fun _ _ _ _ => ⟨rfl, word, read.1, read.2.1⟩⟩
      next => exact .none

theorem TokenFreeNames.bind {store : Store} {name : List Char} {item : Value}
    (names : TokenFreeNames store scope) (plain : '%' ∉ name) :
    TokenFreeNames store (bind scope name item) := by
  intro key listed inside
  rcases Mapping.mem_names_insert listed with known | same
  · exact names key known inside
  · -- The name that is bound has no percent sign, and a token begins with one.
    cases same
    rw [String.toList_ofList, Store.tokenStart_eq] at inside
    exact plain (inside.subset List.mem_cons_self)

theorem repeatBody_matched {loop copy : Loop} {items : List Value}
    (loops : MatchedLoops first second loop copy) (free : PercentFreeScope scope)
    (elements : ∀ item ∈ items, item.PercentFree) (one : first.Lettered) (two : second.Lettered)
    (names : TokenFreeNames first scope) (others : TokenFreeNames second scope) :
    Agree (Matched first second) (repeatBody mode scope loop items)
      (repeatBody mode scope copy items) := by
  induction items with
  | nil => exact .ok .nil
  | cons item items ih =>
    obtain ⟨element, rest⟩ := List.forall_mem_cons.mp elements
    have filled : Agree (Matched first second)
        (fillPlaceholders mode (bind scope loop.name item) loop.body)
        (fillPlaceholders mode (bind scope loop.name item) copy.body) :=
      fillPlaceholders_matched (bind_percentFree free element) one two (names.bind loops.plain)
        (others.bind loops.plain) loops.body
    rw [repeatBody, repeatBody, ← loops.name]
    refine filled.bind fun _ _ front => ?_
    exact (ih rest).bind fun _ _ back => .ok (front.append back)

theorem expandLoop_matched {loop copy : Loop} (loops : MatchedLoops first second loop copy)
    (clear : '%' ∉ loop.collection) (free : PercentFreeScope scope)
    (results : ∀ value, evaluate loop.collection scope = .ok value → value.PercentFree)
    (one : first.Lettered) (two : second.Lettered) (names : TokenFreeNames first scope)
    (others : TokenFreeNames second scope) :
    Agree (Matched first second) (expandLoop evaluate mode scope loop).outcome
      (expandLoop evaluate mode scope copy).outcome := by
  have empty : Agree (Matched first second) (.ok []) (.ok []) := .ok .nil
  -- The collections are the same text, so they come to the same value or the same fault.
  rw [expandLoop, expandLoop, ← loops.collection.eq_of_notMem clear]
  cases found : evaluate loop.collection scope with
  | error fault =>
    dsimp only
    split
    · rw [Reported.outcome_bind, Reported.outcome_bind]
      exact empty
    · exact .error fault
  | ok value =>
    dsimp only
    cases listed : elements? value with
    | none =>
      dsimp only
      rw [Reported.outcome_bind, Reported.outcome_bind]
      exact empty
    | some items =>
      have elements := elements?_percentFree (results value found) listed
      exact repeatBody_matched loops free elements one two names others

/-- No collection of a text's loops is read from text with a percent sign. -/
def PercentFreeCollections (s : List Char) : Prop :=
  ∀ loop source, Piece.found loop source ∈ loops.pieces s → '%' ∉ loop.collection

theorem expandLoops_matched (matched : Matched first second s t)
    (clear : PercentFreeCollections s) (free : PercentFreeScope scope)
    (results : PercentFreeResults evaluate scope s) (one : first.Lettered) (two : second.Lettered)
    (names : TokenFreeNames first scope) (others : TokenFreeNames second scope) :
    Agree (Matched first second) (expandLoops evaluate mode scope s).outcome
      (expandLoops evaluate mode scope t).outcome := by
  -- The texts are cut at the same places, into pieces that match in pairs.
  have cuts : Cuts first second (fun loop _ copy _ => MatchedLoops first second loop copy)
      (loops.pieces s) (loops.pieces t) :=
    matched.pieces one two loopFront?_plain (by decide)
      (fun matched _ => finds_loops matched one two) fun _ _ _ => trivial
  unfold PercentFreeCollections PercentFreeResults expandLoops at *
  generalize loops.pieces s = pieces, loops.pieces t = copies at cuts clear results
  induction cuts with
  | nil => exact .ok .nil
  | text part _ ih =>
    rw [expandPieces_text, expandPieces_text]
    have rest := ih (fun loop source listed => clear loop source (List.mem_append_right _ listed))
      fun loop source value listed => results loop source value (List.mem_append_right _ listed)
    exact rest.map fun _ _ rest => part.append rest
  | @found loop copy _ _ _ _ loops _ ih =>
    have here : Agree (Matched first second) (expandLoop evaluate mode scope loop).outcome
        (expandLoop evaluate mode scope copy).outcome :=
      expandLoop_matched loops (clear _ _ List.mem_cons_self) free
        (fun value => results _ _ value List.mem_cons_self) one two names others
    have rest := ih (fun loop source listed => clear loop source (List.mem_cons_of_mem _ listed))
      fun loop source value listed => results loop source value (List.mem_cons_of_mem _ listed)
    rw [expandPieces, expandPieces, Reported.outcome_bind, Reported.outcome_bind]
    refine here.bind fun _ _ front => ?_
    rw [Reported.outcome_bind, Reported.outcome_bind]
    exact rest.bind fun _ _ back => .ok (front.append back)

/-- The template pass over matching texts. -/
theorem render_matched (matched : Matched first second s t) (free : PercentFreeScope scope)
    (conditions : PercentFreeConditions s)
    (loops : ∀ resolved, (resolveConditionals evaluate scope s).outcome = .ok resolved →
      PercentFreeCollections resolved ∧ PercentFreeResults evaluate scope resolved)
    (one : first.Lettered) (two : second.Lettered) (names : TokenFreeNames first scope)
    (others : TokenFreeNames second scope) :
    Agree (Matched first second) (render evaluate mode scope s).outcome
      (render evaluate mode scope t).outcome := by
  -- Each step hands matching texts on to the next.
  rw [render, render, Reported.outcome_bind, Reported.outcome_bind]
  refine (resolveFrom_matched matched one two conditions).bind fun ended _ resolved => ?_
  obtain ⟨clear, results⟩ := loops _ ended
  rw [Reported.outcome_bind, Reported.outcome_bind]
  refine (expandLoops_matched resolved clear free results one two names others).bind
    fun _ _ expanded => ?_
  exact fillPlaceholders_matched free one two names others expanded

end StaticSite.Template
