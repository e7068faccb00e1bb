import StaticSite.Proofs.Markup.Tokens
import StaticSite.Proofs.Template.Meaning
import StaticSite.Proofs.Value.Printing

/-!
# Tokens in templates

The template pass keeps markup intact: the marks of conditionals, loops and placeholders begin with
characters that no token holds, branches and bodies are cut out between them, and what is printed
of values without percent signs has none. A loop may copy tokens and a branch that is not taken
drops them, but no token is ever cut.
-/

namespace StaticSite.Template

open StaticSite.Text StaticSite.Markup

variable {store : Store} {evaluate : Evaluator} {mode : PlaceholderMode} {scope : Scope}

/-! ### Conditionals -/

def IsMarker (marker : Marker) (source : List Char) : Prop := source = marker.text

theorem Marker.intact (marker : Marker) : store.Intact marker.text := by
  refine .of_notMem ?_
  cases marker <;> decide

theorem pieces_markers {s : List Char} (lettered : store.Lettered) (whole : store.Intact s) :
    store.Cut IsMarker (markers.pieces s) := by
  refine whole.pieces lettered markerFront?_plain (by decide)
    fun {front rest marker} whole found => ?_
  have shape : front ++ rest = marker.text ++ rest := markerFront?_eq_append found
  have same := List.append_cancel_right shape
  subst same
  refine ⟨rfl, whole.drop ?_⟩
  cases marker <;> decide

theorem sourceOf_intact {pieces : List (Piece Marker)} (parts : store.Cut IsMarker pieces) :
    store.Intact (sourceOf pieces) := by
  refine parts.flatMap (fun _ => rfl) fun {marker source} same => ?_
  rw [IsMarker] at same
  subst same
  exact marker.intact

theorem branches_intact {depth : Nat} {split : Bool} {pieces after : List (Piece Marker)}
    {first second : List Char} (parts : store.Cut IsMarker pieces)
    (found : branches depth split pieces = some (first, second, after)) :
    store.Intact first ∧ store.Intact second ∧ store.Cut IsMarker after := by
  induction parts generalizing depth split first second after with
  | nil => contradiction
  | @text s pieces whole _ ih =>
    rw [branches_plain, Option.map_eq_some_iff] at found
    obtain ⟨⟨front, back, rest⟩, inner, same⟩ := found
    obtain ⟨one, two, left⟩ := ih inner
    cases split <;> cases same
    · exact ⟨whole.append one, two, left⟩
    · exact ⟨one, whole.append two, left⟩
  | @found marker source pieces same rest ih =>
    rw [IsMarker] at same
    subst same
    -- A marker that is kept is plain text of the branch that it stands in.
    have kept {inside : Nat} {met : Bool}
        (inner : (branches inside met pieces).map (branches.keep split (.found marker marker.text))
          = some (first, second, after)) :
        store.Intact first ∧ store.Intact second ∧ store.Cut IsMarker after := by
      obtain ⟨⟨front, back, rest⟩, inner, same⟩ := Option.map_eq_some_iff.mp inner
      obtain ⟨one, two, left⟩ := ih inner
      cases split <;> cases same
      · exact ⟨marker.intact.append one, two, left⟩
      · exact ⟨one, marker.intact.append two, left⟩
    cases marker with
    | opening => exact kept found
    | otherwise =>
      cases depth with
      | zero =>
        cases split with
        | true => exact kept found
        | false => exact ih found
      | succ depth => exact kept found
    | closing =>
      cases depth with
      | zero =>
        cases found
        exact ⟨.nil, .nil, rest⟩
      | succ depth => exact kept found

theorem conditional?_intact {s rest : List Char} {block : Conditional} (lettered : store.Lettered)
    (whole : store.Intact s) (found : conditional? s = some (block, rest)) :
    store.Intact block.whenTrue ∧ store.Intact block.whenFalse ∧ store.Intact rest := by
  obtain ⟨cut, split, found⟩ := Option.bind_eq_some_iff.mp found
  obtain ⟨⟨first, second, after⟩, read, same⟩ := Option.map_eq_some_iff.mp found
  cases same
  rw [cutAt?_eq_append split] at whole
  have body := (whole.cut lettered rfl).2
  obtain ⟨one, two, left⟩ := branches_intact (pieces_markers lettered body) read
  exact ⟨one, two, sourceOf_intact left⟩

theorem resolveFrom_intact {s text : List Char} {place : Nat} (lettered : store.Lettered)
    (whole : store.Intact s) (resolved : (resolveFrom evaluate scope place s).value? = some text) :
    store.Intact text := by
  induction s using conditionals_induction generalizing text place with
  | whole s absent =>
    rw [resolveFrom_whole place absent] at resolved
    cases resolved
    exact whole
  | unclosed s before after cut missing =>
    rw [resolveFrom_unclosed place cut missing, Reported.value?_bind] at resolved
    cases resolved
    exact whole
  | closed s before after block rest cut found first second last =>
    have split := whole
    rw [cutAt?_eq_append cut] at split
    obtain ⟨front, inside⟩ := split.cut lettered rfl
    obtain ⟨whenTrue, whenFalse, left⟩ := conditional?_intact lettered inside found
    rw [resolveFrom_closed place cut found, Reported.value?_bind] at resolved
    obtain ⟨taken, -, resolved⟩ := Option.bind_eq_some_iff.mp resolved
    -- Only the branch that is taken is resolved.
    have joined {branch : List Char}
        (kept : ∀ {text}, (resolveFrom evaluate scope 0 branch).value? = some text →
          store.Intact text)
        (chosen : (resolveFrom evaluate scope 0 branch
          >>= fun text => resolveFrom evaluate scope (place + s.length - rest.length) rest
            >>= fun tail => pure (before ++ text ++ tail)).value? = some text) :
        store.Intact text := by
      simp only [Reported.value?_bind, Option.bind_eq_some_iff] at chosen
      obtain ⟨middle, here, tail, back, ended⟩ := chosen
      cases ended
      exact (front.append (kept here)).append (last left back)
    cases taken with
    | true => exact joined (first whenTrue) resolved
    | false => exact joined (second whenFalse) resolved

/-! ### Placeholders -/

theorem pieces_placeholders {s : List Char} (lettered : store.Lettered) (whole : store.Intact s) :
    store.Cut (fun path _ => store.Intact path) (placeholders.pieces s) := by
  refine whole.pieces lettered placeholderFront?_plain (by decide)
    fun {front rest path} whole found => ?_
  rw [placeholderFront?_eq_append found] at whole
  obtain ⟨opened, left⟩ := whole.cut lettered (by decide)
  exact ⟨opened.drop (by decide), left⟩

/-- No value of a scope holds a percent sign. -/
def PercentFreeScope (scope : Scope) : Prop := ∀ entry ∈ scope, entry.2.PercentFree

theorem get?_percentFree {name : String} {entries : Mapping.Entries} {value : Value}
    (free : PercentFreeScope entries) (found : Mapping.get? name entries = some value) :
    value.PercentFree := by
  obtain ⟨entry, here, rfl⟩ := Option.map_eq_some_iff.mp found
  exact free entry (List.mem_of_find?_eq_some here)

theorem child?_percentFree {current value : Value} {segment : List Char}
    (free : current.PercentFree) (found : child? current segment = .ok (some value)) :
    value.PercentFree := by
  cases current with
  | mapping entries =>
    rw [child?, Except.ok.injEq] at found
    have each := Value.entriesPercentFree_iff.mp free
    exact get?_percentFree (fun entry listed => (each entry listed).2) found
  | list items | tuple items =>
    have each := Value.itemsPercentFree_iff.mp free
    rw [child?] at found
    split at found
    · split at found
      · rw [Except.ok.injEq] at found
        exact each value (List.mem_of_getElem? found)
      · contradiction
    · simp at found
  | _ => simp [child?] at found

theorem walk_percentFree {current value : Value} {path : List (List Char)}
    (free : current.PercentFree) (found : walk current path = .ok (some value)) :
    value.PercentFree := by
  induction path generalizing current with
  | nil =>
    cases found
    exact free
  | cons segment path ih =>
    rw [walk] at found
    obtain ⟨next, here, found⟩ := Fault.bind_eq_ok found
    cases next with
    | none => simp [pure, Except.pure] at found
    | some next => exact ih (child?_percentFree free here) found

/-- A path names a value of the scope; the scope itself has no name. -/
theorem resolvePath_percentFree {path : List Char} {value : Value} (free : PercentFreeScope scope)
    (found : resolvePath scope path = .ok (some value)) : value.PercentFree := by
  obtain ⟨first, rest, shape⟩ := splitFrom_head ['.'] ((trim path).length + 1) 0 [] (trim path)
  rw [resolvePath, segments, splitOn, shape, walk] at found
  obtain ⟨next, here, found⟩ := Fault.bind_eq_ok found
  cases next with
  | none => simp [pure, Except.pure] at found
  | some next =>
    rw [child?, Except.ok.injEq] at here
    exact walk_percentFree (get?_percentFree free here) found

theorem placeholderText_intact {path text : List Char} (free : PercentFreeScope scope)
    (whole : store.Intact path) (shown : placeholderText mode scope path = .ok text) :
    store.Intact text := by
  obtain ⟨value, found, shown⟩ := Fault.bind_eq_ok shown
  cases value with
  | some value =>
    have printed : stringify value = .ok text := shown
    exact .of_notMem (percent_notMem_stringify value (resolvePath_percentFree free found) printed)
  | none =>
    cases mode with
    | silent =>
      cases shown
      exact .nil
    | strict =>
      cases shown
      have opened : store.Intact "[[UNRESOLVED:".toList := .of_notMem (by decide)
      exact (opened.append whole).append (.of_notMem (by decide))

theorem eq_ok_of_toOption {α : Type} {result : Except Fault α} {a : α}
    (ended : result.toOption = some a) : result = .ok a := by
  cases result with
  | error fault => contradiction
  | ok b =>
    cases ended
    rfl

theorem fillPieces_intact {pieces : List (Piece (List Char))} {text : List Char}
    (free : PercentFreeScope scope) (parts : store.Cut (fun path _ => store.Intact path) pieces)
    (filled : (fillPieces mode scope pieces).toOption = some text) : store.Intact text := by
  induction parts generalizing text with
  | nil =>
    cases filled
    exact .nil
  | text whole _ ih =>
    rw [fillPieces_plain] at filled
    obtain ⟨rest, inner, rfl⟩ := Option.map_eq_some_iff.mp filled
    exact whole.append (ih inner)
  | @found path source pieces known _ ih =>
    rw [fillPieces_found] at filled
    obtain ⟨shown, rest, here, inner, rfl⟩ := joined_eq_some_iff.mp filled
    exact (placeholderText_intact free known (eq_ok_of_toOption here)).append (ih inner)

theorem fillPlaceholders_intact {s text : List Char} (free : PercentFreeScope scope)
    (lettered : store.Lettered) (whole : store.Intact s)
    (filled : (fillPlaceholders mode scope s).toOption = some text) : store.Intact text :=
  fillPieces_intact free (pieces_placeholders lettered whole) filled

/-! ### Loops -/

theorem collectionFront?_between {s rest : List Char} {found : List Char × List Char}
    (read : collectionFront? s = some (found, rest)) :
    ')' :: (found.2 ++ eachClosing ++ rest) <:+ s := by
  cases s with
  | nil => contradiction
  | cons c s =>
    rw [collectionFront?] at read
    split at read
    · contradiction
    obtain ⟨cut, split, read⟩ := Option.bind_eq_some_iff.mp read
    split at read
    · contradiction
    obtain ⟨body, closed, same⟩ := Option.map_eq_some_iff.mp read
    cases same
    refine ⟨c :: cut.1, ?_⟩
    rw [cutAt?_eq_append split, cutAt?_eq_append closed]
    simp

theorem afterGap?_between {s rest : List Char} {blanks : Nat} {found : List Char × List Char}
    (read : afterGap? s blanks = some (found, rest)) :
    ')' :: (found.2 ++ eachClosing ++ rest) <:+ s := by
  induction blanks with
  | zero => contradiction
  | succ blanks ih =>
    rw [afterGap?] at read
    split at read
    next taken front =>
      cases read
      exact (collectionFront?_between front).trans (List.drop_suffix _ _)
    next => exact ih read

/-- The body of a loop stands between the end of its header and its closing marker. -/
theorem loopFront?_between {s rest : List Char} {loop : Loop}
    (found : loopFront? s = some (loop, rest)) :
    ')' :: (loop.body ++ eachClosing ++ rest) <:+ s := by
  obtain ⟨header, opened, found⟩ := Option.bind_eq_some_iff.mp found
  split at found
  · contradiction
  · contradiction
  next blank after named _ =>
    split at found
    · obtain ⟨gap, word, found⟩ := Option.bind_eq_some_iff.mp found
      obtain ⟨body, read, same⟩ := Option.map_eq_some_iff.mp found
      cases same
      -- Header, name, blanks and the word `in` are taken off one after the other.
      have inner : gap <:+ after.dropWhile isBlank :=
        ⟨['i', 'n'], (dropFront?_eq_some_iff.mp word).symm⟩
      have name : blank :: after <:+ header := named ▸ List.dropWhile_suffix isWord
      have whole : header <:+ s := ⟨eachOpening, (dropFront?_eq_some_iff.mp opened).symm⟩
      have spaced := inner.trans (List.dropWhile_suffix isBlank)
      have blanks := spaced.trans (List.suffix_cons blank after)
      exact (((afterGap?_between read).trans blanks).trans name).trans whole
    · contradiction

theorem pieces_loops {s : List Char} (lettered : store.Lettered) (whole : store.Intact s) :
    store.Cut (fun loop _ => store.Intact loop.body) (loops.pieces s) := by
  refine whole.pieces lettered loopFront?_plain (by decide) fun {front rest loop} whole found => ?_
  obtain ⟨header, shape⟩ := loopFront?_between found
  rw [← shape] at whole
  have inner := (whole.split lettered (by decide)).2
  exact inner.cut lettered (by decide)

theorem bind_percentFree {name : List Char} {item : Value} (free : PercentFreeScope scope)
    (element : item.PercentFree) : PercentFreeScope (bind scope name item) := by
  unfold bind Mapping.insertName
  induction scope with
  | nil => simpa [PercentFreeScope, Mapping.insert] using element
  | cons entry scope ih =>
    obtain ⟨first, rest⟩ := List.forall_mem_cons.mp free
    rw [Mapping.insert]
    split
    · exact List.forall_mem_cons.mpr ⟨element, rest⟩
    · exact List.forall_mem_cons.mpr ⟨first, ih rest⟩

theorem repeatBody_intact {loop : Loop} {items : List Value} {text : List Char}
    (free : PercentFreeScope scope) (elements : ∀ item ∈ items, item.PercentFree)
    (lettered : store.Lettered) (whole : store.Intact loop.body)
    (repeated : (repeatBody mode scope loop items) = .ok text) : store.Intact text := by
  induction items generalizing text with
  | nil =>
    cases repeated
    exact .nil
  | cons item items ih =>
    obtain ⟨element, others⟩ := List.forall_mem_cons.mp elements
    obtain ⟨first, here, repeated⟩ := Fault.bind_eq_ok repeated
    obtain ⟨rest, later, repeated⟩ := Fault.bind_eq_ok repeated
    cases repeated
    have filled : (fillPlaceholders mode (bind scope loop.name item) loop.body).toOption
        = some first := by
      rw [here]
      rfl
    exact (fillPlaceholders_intact (bind_percentFree free element) lettered whole filled).append
      (ih others later)

theorem elements?_percentFree {value : Value} {items : List Value} (free : value.PercentFree)
    (listed : elements? value = some items) : ∀ item ∈ items, item.PercentFree := by
  cases value with
  | list all | tuple all =>
    cases listed
    exact Value.itemsPercentFree_iff.mp free
  | _ => contradiction

/-- No collection of a text's loops holds a percent sign. -/
def PercentFreeResults (evaluate : Evaluator) (scope : Scope) (s : List Char) : Prop :=
  ∀ loop source value, Piece.found loop source ∈ loops.pieces s →
    evaluate loop.collection scope = .ok value → value.PercentFree

theorem expandLoop_intact {loop : Loop} {text : List Char} (free : PercentFreeScope scope)
    (results : ∀ value, evaluate loop.collection scope = .ok value → value.PercentFree)
    (lettered : store.Lettered) (whole : store.Intact loop.body)
    (expanded : (expandLoop evaluate mode scope loop).value? = some text) : store.Intact text := by
  unfold expandLoop at expanded
  split at expanded
  next fault _ =>
    split at expanded
    · -- A loop that cannot be expanded is reported, and leaves nothing.
      rw [Reported.value?_bind] at expanded
      cases expanded
      exact .nil
    · contradiction
  next value found =>
    split at expanded
    next items listed =>
      have elements := elements?_percentFree (results value found) listed
      exact repeatBody_intact free elements lettered whole (eq_ok_of_toOption expanded)
    next =>
      rw [Reported.value?_bind] at expanded
      cases expanded
      exact .nil

theorem expandLoops_intact {s text : List Char} (free : PercentFreeScope scope)
    (results : PercentFreeResults evaluate scope s) (lettered : store.Lettered)
    (whole : store.Intact s) (expanded : (expandLoops evaluate mode scope s).value? = some text) :
    store.Intact text := by
  unfold PercentFreeResults expandLoops at *
  have parts := pieces_loops lettered whole
  generalize loops.pieces s = pieces at parts results expanded
  induction parts generalizing text with
  | nil =>
    cases expanded
    exact .nil
  | text part _ ih =>
    rw [expandPieces_plain] at expanded
    obtain ⟨rest, inner, rfl⟩ := Option.map_eq_some_iff.mp expanded
    exact part.append (ih (fun loop source value listed =>
      results loop source value (List.mem_append_right _ listed)) inner)
  | @found loop source pieces body _ ih =>
    rw [expandPieces_found] at expanded
    obtain ⟨first, rest, here, inner, rfl⟩ := joined_eq_some_iff.mp expanded
    have first := expandLoop_intact free (fun value =>
      results loop source value List.mem_cons_self) lettered body here
    exact first.append (ih (fun loop source value listed =>
      results loop source value (List.mem_cons_of_mem _ listed)) inner)

/-- A template pass that ends has gone through its three steps. -/
theorem render_eq_ok {s text : List Char}
    (rendered : (render evaluate mode scope s).outcome = .ok text) :
    ∃ resolved expanded, (resolveConditionals evaluate scope s).outcome = .ok resolved
      ∧ (expandLoops evaluate mode scope resolved).outcome = .ok expanded
      ∧ fillPlaceholders mode scope expanded = .ok text := by
  rw [render, Reported.outcome_bind] at rendered
  obtain ⟨resolved, first, rendered⟩ := Fault.bind_eq_ok rendered
  rw [Reported.outcome_bind] at rendered
  obtain ⟨expanded, second, rendered⟩ := Fault.bind_eq_ok rendered
  exact ⟨resolved, expanded, first, second, rendered⟩

end StaticSite.Template
