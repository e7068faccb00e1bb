import Mathlib.Data.List.Forall2
import Mathlib.Data.List.TakeWhile
import StaticSite.Proofs.Markup.Comments
import StaticSite.Proofs.Text.Lowering

/-!
# What is left of a markup has no elements

Taking an element out brings the texts around it together, and an opening tag or the content of an
element that is never closed may hold elements of its own. Still nothing is uncovered. An element of
what is left begins with a bracket of the markup itself, and its names, the ends of its tags and its
closing tag are characters of the markup too, since no token has one of them. Read in the markup,
with the elements in the place of their tokens, the opening tag may end earlier, but the closing tag
stands behind it all the same. So the markup had an element at this bracket, and it would have been
taken out.
-/

namespace StaticSite.Markup

open StaticSite.Text

/-- A complete element of a tag: its name stands in the opening and in the closing tag, in any
letter case, and anything may stand between them. Attributes are set off by a blank. -/
inductive Complete (tag : List Char) : List Char → Prop where
  | intro {name attributes content close gap : List Char}
      (opened : name.map Char.toLower = tag)
      (apart : ∀ c ∈ attributes.head?, isBlank c = true)
      (closed : close.map Char.toLower = tag)
      (blank : ∀ c ∈ gap, isBlank c = true) :
      Complete tag ('<' :: (name ++ (attributes ++ '>' :: (content
        ++ '<' :: '/' :: (close ++ (gap ++ ['>']))))))

/-! ### The readers of an element -/

theorem nameFront?_append {tag name : List Char}
    (spelled : List.Forall₂ (fun letter c => isFormOf letter c = true) tag name)
    (rest : List Char) : nameFront? tag (name ++ rest) = some (name, rest) := by
  induction spelled with
  | nil => rfl
  | cons form _ ih => rw [List.cons_append, nameFront?, if_pos form, ih, Option.map_some]

theorem nameFront?_spelled {tag s name rest : List Char}
    (found : nameFront? tag s = some (name, rest)) :
    List.Forall₂ (fun letter c => isFormOf letter c = true) tag name := by
  induction tag generalizing s name with
  | nil =>
    cases found
    exact .nil
  | cons letter tag ih =>
    cases s with
    | nil => contradiction
    | cons c s =>
      rw [nameFront?] at found
      split at found
      next form =>
        obtain ⟨⟨inner, tail⟩, read, same⟩ := Option.map_eq_some_iff.mp found
        cases same
        exact .cons form (ih read)
      next => contradiction

/-- A closing tag of a name: `</`, the name in any letter case, blanks and `>`. -/
inductive Closing (name : List Char) : List Char → Prop where
  | intro {close gap : List Char} (same : close.map caseless = name.map caseless)
      (blank : ∀ c ∈ gap, isBlank c = true) :
      Closing name ('<' :: '/' :: (close ++ (gap ++ ['>'])))

theorem sameNameFront?_append {name close : List Char}
    (same : close.map caseless = name.map caseless) (rest : List Char) :
    sameNameFront? name (close ++ rest) = some rest := by
  induction name generalizing close with
  | nil =>
    obtain rfl := List.map_eq_nil_iff.mp same
    rfl
  | cons d name ih =>
    obtain ⟨c, tail, rfl, letter, inner⟩ := List.map_eq_cons_iff.mp same
    rw [List.cons_append, sameNameFront?, if_pos letter.symm, ih inner]

theorem sameNameFront?_spelled {name s rest : List Char}
    (found : sameNameFront? name s = some rest) :
    ∃ close, close.map caseless = name.map caseless ∧ s = close ++ rest := by
  induction name generalizing s with
  | nil =>
    cases found
    exact ⟨[], rfl, rfl⟩
  | cons d name ih =>
    cases s with
    | nil => contradiction
    | cons c s =>
      rw [sameNameFront?] at found
      split at found
      next letter =>
        obtain ⟨close, same, rfl⟩ := ih found
        exact ⟨c :: close, by rw [List.map_cons, List.map_cons, same, letter], rfl⟩
      next => contradiction

theorem closingFront?_append {name closing : List Char} (closes : Closing name closing)
    (rest : List Char) : closingFront? name (closing ++ rest) = some rest := by
  obtain ⟨same, blank⟩ := closes
  next close gap =>
    have shape : '<' :: '/' :: (close ++ (gap ++ ['>'])) ++ rest
        = '<' :: '/' :: (close ++ (gap ++ '>' :: rest)) := by simp
    have solid : ¬ isBlank '>' = true := by decide
    rw [shape, closingFront?, sameNameFront?_append same]
    simp only [List.dropWhile_append_of_pos blank, List.dropWhile_cons_of_neg solid]

theorem closingFront?_closing {name s rest : List Char}
    (found : closingFront? name s = some rest) :
    ∃ closing, Closing name closing ∧ s = closing ++ rest := by
  unfold closingFront? at found
  split at found
  next after =>
    split at found
    next tail read =>
      split at found
      next behind last =>
        cases found
        obtain ⟨close, same, rfl⟩ := sameNameFront?_spelled read
        have whole := List.takeWhile_append_dropWhile (p := isBlank) (l := tail)
        have blank : ∀ c ∈ tail.takeWhile isBlank, isBlank c = true :=
          fun c inside => List.mem_takeWhile_imp inside
        rw [last] at whole
        exact ⟨_, .intro same blank, by simp [whole]⟩
      next => contradiction
    next => contradiction
  next => contradiction

theorem afterClosing?_isSome_iff {name s : List Char} :
    (afterClosing? name s).isSome = true ↔ ∃ closing, Closing name closing ∧ closing <:+: s := by
  induction s with
  | nil =>
    refine ⟨fun found => by contradiction, ?_⟩
    rintro ⟨closing, ⟨_, _⟩, inside⟩
    cases List.infix_nil.mp inside
  | cons c s ih =>
    rw [afterClosing?]
    split
    next rest closed =>
      obtain ⟨closing, closes, whole⟩ := closingFront?_closing closed
      exact ⟨fun _ => ⟨closing, closes, [], rest, by rw [List.nil_append, whole]⟩, fun _ => rfl⟩
    next absent =>
      rw [ih]
      refine exists_congr fun closing => and_congr_right fun closes => ?_
      refine ⟨fun inside => inside.trans (List.suffix_cons c s).isInfix, fun inside => ?_⟩
      rcases List.infix_cons_iff.mp inside with ⟨rest, here⟩ | later
      · rw [← here, closingFront?_append closes] at absent
        contradiction
      · exact later

/-- A text that begins with an element of a tag: a closing tag of its name stands somewhere behind
the opening tag. -/
inductive Begins (tag : List Char) : List Char → Prop where
  | intro {name attributes rest closing : List Char}
      (spelled : List.Forall₂ (fun letter c => isFormOf letter c = true) tag name)
      (apart : ∀ c ∈ attributes.head?, isBlank c = true)
      (closes : Closing name closing) (behind : closing <:+: rest) :
      Begins tag ('<' :: (name ++ (attributes ++ '>' :: rest)))

/-- The opening tag ends at the first bracket, so no less stands behind it than behind another. -/
theorem openingEnd?_append {attributes : List Char}
    (apart : ∀ c ∈ attributes.head?, isBlank c = true) (rest : List Char) :
    ∃ inner, openingEnd? (attributes ++ '>' :: rest) = some inner ∧ rest <:+ inner := by
  cases attributes with
  | nil => exact ⟨rest, rfl, List.suffix_rfl⟩
  | cons c attributes =>
    have blank : isBlank c = true := apart c rfl
    have differs : c ≠ '>' := by
      rintro rfl
      contradiction
    obtain ⟨⟨before, inner⟩, cut⟩ :=
      Option.isSome_iff_exists.mp (cutAt?_isSome ['>'] attributes rest)
    refine ⟨inner, ?_, ?_⟩
    · rw [List.singleton_append] at cut
      rw [List.cons_append, openingEnd?, if_neg differs, if_pos blank, cut, Option.map_some]
    · have whole := cutAt?_eq_append cut
      -- The cut is at the first bracket, so ours is that one or stands behind it.
      have absent := cutAt?_char_notMem cut
      have ends : '>' :: rest <:+ before ++ '>' :: inner := by
        refine ⟨attributes, ?_⟩
        simpa using whole
      rcases List.suffix_cons_iff.mp (suffix_of_notMem absent ends) with same | later
      · cases same
        exact List.suffix_rfl
      · exact (List.suffix_cons '>' rest).trans later

theorem openingEnd?_apart {s rest : List Char} (found : openingEnd? s = some rest) :
    ∃ attributes, (∀ c ∈ attributes.head?, isBlank c = true) ∧ s = attributes ++ '>' :: rest := by
  cases s with
  | nil => contradiction
  | cons c s =>
    rw [openingEnd?] at found
    split at found
    next same =>
      cases found
      exact ⟨[], by simp, by rw [same, List.nil_append]⟩
    next =>
      split at found
      next blank =>
        obtain ⟨⟨before, after⟩, cut, same⟩ := Option.map_eq_some_iff.mp found
        cases same
        refine ⟨c :: before, ?_, ?_⟩
        · intro d first
          cases first
          exact blank
        · rw [cutAt?_eq_append cut, List.append_assoc, List.singleton_append, List.cons_append]
      next => contradiction

theorem elementFront?_isSome_iff {tag s : List Char} :
    (elementFront? tag s).isSome = true ↔ Begins tag s := by
  constructor
  · intro found
    unfold elementFront? at found
    split at found
    next after =>
      split at found
      next name inner read =>
        obtain ⟨rest, whole⟩ := Option.isSome_iff_exists.mp found
        obtain ⟨body, opened, closed⟩ := Option.bind_eq_some_iff.mp whole
        obtain ⟨attributes, apart, rfl⟩ := openingEnd?_apart opened
        obtain ⟨closing, closes, behind⟩ :=
          afterClosing?_isSome_iff.mp (Option.isSome_iff_exists.mpr ⟨rest, closed⟩)
        rw [nameFront?_eq_append read]
        exact .intro (nameFront?_spelled read) apart closes behind
      next => contradiction
    next => contradiction
  · rintro ⟨spelled, apart, closes, behind⟩
    next name attributes rest closing =>
      obtain ⟨inner, opened, later⟩ := openingEnd?_append apart rest
      simp only [elementFront?, nameFront?_append spelled, opened, Option.bind_some]
      exact afterClosing?_isSome_iff.mpr ⟨closing, closes, behind.trans later.isInfix⟩

theorem anyElementFront?_eq_none_iff {tags : List (List Char)} {s : List Char} :
    anyElementFront? tags s = none ↔ ∀ tag ∈ tags, ¬ Begins tag s := by
  rw [anyElementFront?, List.findSome?_eq_none_iff]
  refine forall₂_congr fun tag _ => ?_
  rw [← elementFront?_isSome_iff, Option.isSome_iff_ne_none, not_not]

/-! ### Elements of what is left -/

/-- A tag has no percent sign, and so no name has one that is read as the tag. -/
theorem notMem_of_spelled {tag name : List Char}
    (spelled : List.Forall₂ (fun letter c => isFormOf letter c = true) tag name)
    (plain : '%' ∉ tag) : '%' ∉ name.map caseless := by
  induction spelled with
  | nil => exact List.not_mem_nil
  | @cons letter c _ _ form _ ih =>
    rw [List.mem_cons, not_or] at plain
    rw [List.map_cons, List.mem_cons, not_or]
    refine ⟨fun same => ?_, ih plain.2⟩
    rw [isFormOf, ← same] at form
    simp only [Bool.or_eq_true, Bool.and_eq_true, beq_iff_eq] at form
    rcases form with (here | ⟨_, rfl⟩) | ⟨_, rfl⟩
    · exact plain.1 here
    · exact absurd same (by decide)
    · exact absurd same (by decide)

theorem notMem_of_caseless {name : List Char} (plain : '%' ∉ name.map caseless) : '%' ∉ name :=
  fun inside => plain (List.mem_map_of_mem inside)

theorem Closing.notMem {name closing : List Char} (closes : Closing name closing)
    (plain : '%' ∉ name.map caseless) : '%' ∉ closing := by
  obtain ⟨same, blank⟩ := closes
  next close gap =>
    have letters : '%' ∉ close := notMem_of_caseless (same ▸ plain)
    have blanks : '%' ∉ gap := notMem_of_forall blank (by decide)
    simp [letters, blanks]

/-- No token holds the first character of a closing tag. -/
theorem Closing.head {name closing : List Char} (closes : Closing name closing) :
    ∃ c mark, closing = c :: mark ∧ Store.isTokenChar c = false := by
  obtain ⟨_, _⟩ := closes
  exact ⟨_, _, rfl, rfl⟩

namespace Store

variable {store : Store}

/-- What stands behind a bracket in what is left stands behind one in the markup. -/
theorem behind_of_keepPieces {c d : Char} {mark rest : List Char} {pieces : List (Piece Unit)}
    (lettered : store.Lettered) (bracket : isTokenChar d = false)
    (foreign : isTokenChar c = false) (plain : '%' ∉ mark)
    (ends : d :: rest <:+ (keepPieces store pieces).1) (inside : c :: mark <:+: rest) :
    ∃ behind, d :: behind <:+ pieces.flatMap Piece.source ∧ c :: mark <:+: behind := by
  induction pieces generalizing store with
  | nil => cases List.suffix_nil.mp ends
  | cons piece pieces ih =>
    rw [List.flatMap_cons]
    cases piece with
    | plain e =>
      rw [keepPieces_plain] at ends
      rcases List.suffix_cons_iff.mp ends with whole | later
      · obtain ⟨rfl, same⟩ := List.cons.inj whole
        rw [same] at inside
        exact ⟨_, List.suffix_rfl, infix_of_keepPieces lettered foreign plain inside⟩
      · obtain ⟨behind, opened, found⟩ := ih lettered later
        exact ⟨behind, opened.trans (List.suffix_append _ _), found⟩
    | found item source =>
      rw [keepPieces_found] at ends
      have added : (store.add source).Lettered := lettered
      -- No bracket stands in a token, so it stands behind it.
      have later := suffix_of_notMem (notMem_token lettered bracket _) ends
      obtain ⟨behind, opened, found⟩ := ih added later
      exact ⟨behind, opened.trans (List.suffix_append _ _), found⟩

/-- If an element begins at a plain character in what is left of a markup, one began there in the
markup. -/
theorem begins_of_keepPieces {c : Char} {tag : List Char} {pieces : List (Piece Unit)}
    (lettered : store.Lettered) (plain : '%' ∉ tag)
    (begins : Begins tag (c :: (keepPieces store pieces).1)) :
    Begins tag (c :: pieces.flatMap Piece.source) := by
  generalize left : c :: (keepPieces store pieces).1 = text at begins
  obtain ⟨spelled, apart, closes, behind⟩ := begins
  next name attributes rest closing =>
    have letters := notMem_of_spelled spelled plain
    obtain ⟨d, mark, rfl, foreign⟩ := closes.head
    have solid : '%' ∉ mark := fun inside => closes.notMem letters (List.mem_cons_of_mem d inside)
    obtain ⟨rfl, after⟩ := List.cons.inj left
    -- The name and the character behind it are characters of the markup: no token has come yet.
    obtain ⟨spread, whole, tagged⟩ := split_of_keepPieces (notMem_of_caseless letters) after
    rw [whole]
    cases attributes with
    | nil =>
      have bracket : '%' ∉ ['>'] := by decide
      obtain ⟨most, opened, found⟩ := split_of_keepPieces bracket tagged
      rw [← found] at behind
      rw [opened]
      show Begins tag ('<' :: (name ++ ([] ++ '>' :: most.flatMap Piece.source)))
      exact .intro spelled apart closes (infix_of_keepPieces lettered foreign solid behind)
    | cons b attributes =>
      have bare : '%' ∉ [b] := by
        rw [List.mem_singleton]
        rintro rfl
        exact absurd (apart _ rfl) (by decide)
      obtain ⟨most, opened, found⟩ := split_of_keepPieces bare tagged
      -- Attributes may hold tokens. What these stand for may end the opening tag, but only earlier.
      have ends : '>' :: rest <:+ (keepPieces store most).1 := ⟨attributes, found.symm⟩
      obtain ⟨body, ⟨longer, same⟩, inner⟩ :=
        behind_of_keepPieces lettered rfl foreign solid ends behind
      rw [opened, ← same]
      show Begins tag ('<' :: (name ++ (b :: longer ++ '>' :: body)))
      exact .intro spelled apart closes inner

/-! ### Markup taken out twice -/

/-- No element begins anywhere in what is left of a markup. -/
theorem skips_protect (lettered : store.Lettered) (s : List Char) :
    Skips (anyElementFront? verbatimTags) (protect s store).1 [] := by
  induction s using (elements verbatimTags).induction generalizing store with
  | nil =>
    rw [protect_nil]
    exact .nil _ _
  | plain c s absent ih =>
    have front : anyElementFront? verbatimTags (c :: s) = none := Option.map_eq_none_iff.mp absent
    rw [protect_plain store front]
    refine .cons ?_ (ih lettered)
    rw [List.append_nil]
    rw [anyElementFront?_eq_none_iff] at front ⊢
    intro tag listed begins
    have plain : '%' ∉ tag := (by decide : ∀ tag ∈ verbatimTags, '%' ∉ tag) tag listed
    refine front tag listed ?_
    rw [← (elements verbatimTags).source_pieces s]
    exact begins_of_keepPieces lettered plain begins
  | found item source rest present ih =>
    obtain ⟨after, element, same⟩ := Option.map_eq_some_iff.mp present
    cases same
    rw [protect_element store element]
    have added : (store.add source).Lettered := lettered
    have bare := notMem_token lettered (by decide : isTokenChar '<' = false) store.size
    exact .append (.of_not_mem (fun _ _ differs => anyElementFront?_of_ne _ differs) bare _)
      (ih added)

end Store

theorem map_caseless {name : List Char} (ascii : ∀ c ∈ name.map Char.toLower, isAscii c = true) :
    name.map caseless = name.map Char.toLower := by
  have each : ∀ code : Fin 128,
      caseless (Char.ofNat code) = (Char.ofNat code).toLower := by decide +kernel
  refine List.map_congr_left fun c inside => ?_
  have here := isAscii_of_toLower (ascii _ (List.mem_map_of_mem inside))
  have below : c.toNat < 128 := by simpa [isAscii] using here
  have same := each ⟨c.toNat, below⟩
  rwa [Char.ofNat_toNat] at same

/-- A complete element begins wherever it stands. -/
theorem Complete.begins {tag element : List Char} (ascii : ∀ c ∈ tag, isAscii c = true)
    (complete : Complete tag element) (rest : List Char) : Begins tag (element ++ rest) := by
  obtain ⟨opened, apart, closed, blank⟩ := complete
  next name attributes content close gap =>
    have named : name.map caseless = tag := by
      rw [map_caseless (opened ▸ ascii), opened]
    have same : close.map caseless = name.map caseless := by
      rw [named, map_caseless (closed ▸ ascii), closed]
    have spelled : List.Forall₂ (fun letter c => isFormOf letter c = true) tag name := by
      rw [← named, List.forall₂_map_left_iff]
      exact List.forall₂_same.mpr fun c _ => by simp [isFormOf]
    have shape : '<' :: (name ++ (attributes ++ '>' :: (content
        ++ '<' :: '/' :: (close ++ (gap ++ ['>']))))) ++ rest
        = '<' :: (name ++ (attributes ++ '>' :: (content
          ++ ('<' :: '/' :: (close ++ (gap ++ ['>'])) ++ rest)))) := by simp
    rw [shape]
    exact .intro spelled apart (.intro same blank) ⟨content, rest, by simp⟩

/-- What is left when its elements are taken out of a markup has no complete element, wherever the
elements stood. Taking the elements out of it changes neither the text nor a store. -/
theorem protect_leaves_no_element (store : Store) (lettered : store.Lettered) (s : List Char) :
    let kept := protect s store
    (∀ tag ∈ verbatimTags, ∀ element, Complete tag element → ¬ element <:+: kept.1)
      ∧ ∀ later, protect kept.1 later = (kept.1, later) := by
  intro kept
  -- The scanner finds nothing anywhere in what is left, tokens included.
  have skips := Store.skips_protect lettered s
  constructor
  · intro tag listed element complete inside
    have ascii : ∀ tag ∈ verbatimTags, tag.all isAscii = true := by decide
    obtain ⟨before, after, whole⟩ := inside
    -- A complete element is one that the scanner would take where it begins.
    have begins := complete.begins (List.all_eq_true.mp (ascii tag listed)) after
    have tail : element ++ after <:+ kept.1 := ⟨before, by rw [← whole, List.append_assoc]⟩
    have nonempty : element ++ after ≠ [] := by
      intro none
      rw [none] at begins
      cases begins
    have absent := skips _ tail nonempty
    rw [List.append_nil] at absent
    exact anyElementFront?_eq_none_iff.mp absent tag listed begins
  · intro later
    have same := protect_skip later skips
    rw [protect_nil, List.append_nil] at same
    exact same

/-- Two elements are never closed. One has a complete element in its opening tag, the other one in
its content. -/
theorem protect_leaves_no_element_unclosed :
    let store : Store := ⟨"0f".toList, []⟩
    let markup := "<code <pre>a</pre>><textarea>b<PRE >c</pre\n></code".toList
    let kept := protect markup store
    store.Lettered ∧ kept.1 = "<code %%VERBATIM_0f_0%%><textarea>b%%VERBATIM_0f_1%%</code".toList
      ∧ (∀ tag ∈ verbatimTags, ∀ element, Complete tag element → ¬ element <:+: kept.1)
      ∧ ∀ later, protect kept.1 later = (kept.1, later) := by
  intro store markup kept
  have lettered : store.Lettered := List.all_eq_true.mp rfl
  exact ⟨lettered, by decide +kernel, protect_leaves_no_element store lettered markup⟩

end StaticSite.Markup
