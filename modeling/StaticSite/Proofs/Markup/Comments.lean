import StaticSite.Proofs.Markup.Protecting

/-!
# Comments and elements

Elements are taken out of a markup before its comments are removed. Together the two passes read the
markup once, from left to right: an element that begins where the reading has come to is kept, a
comment that begins there is dropped. But they read a comment in a way of their own. Elements are
elements inside of a comment too, so it ends at the first closing mark outside of the elements that
begin in it, and if there is none it is no comment.

So what the passes come to is the markup read with such comments. Where no element begins inside of
a comment, this is the reading in which what starts first decides.
-/

namespace StaticSite.Markup

open StaticSite.Text

/-! ### Readings -/

/-- Recognises verbatim elements, marked `true`, and at other places what another scanner finds. -/
def elementsOr (dropped : Scanner Unit) : Scanner Bool where
  run s := match anyElementFront? verbatimTags s with
    | some rest => some (true, rest)
    | none => (dropped.run s).map fun found => (false, found.2)
  shorter {s item rest} found := by
    split at found
    next after read =>
      cases found
      exact anyElementFront?_shorter read
    next =>
      obtain ⟨other, recognised, same⟩ := Option.map_eq_some_iff.mp found
      cases same
      exact dropped.shorter recognised
  suffix {s item rest} found := by
    split at found
    next after read =>
      cases found
      obtain ⟨front, same⟩ := anyElementFront?_suffix read
      exact ⟨_, same⟩
    next =>
      obtain ⟨other, recognised, same⟩ := Option.map_eq_some_iff.mp found
      cases same
      exact dropped.suffix recognised

/-- What a reading keeps of a piece: characters and elements. -/
def keptText : Piece Bool → List Char
  | .plain c => [c]
  | .found true source => source
  | .found false _ => []

/-- A markup read from left to right: elements that begin are kept as they are, what else the
scanner finds is dropped. -/
def readApart (dropped : Scanner Unit) (s : List Char) : List Char :=
  ((elementsOr dropped).pieces s).flatMap keptText

/-- The text after the first end of a comment that stands outside of the elements of a text. -/
def closingOutside? : List Char → Option (List Char)
  | [] => none
  | c :: s =>
    match _element : anyElementFront? verbatimTags (c :: s) with
    | some rest => closingOutside? rest
    | none => match dropFront? commentClosing (c :: s) with
      | some rest => some rest
      | none => closingOutside? s
termination_by s => s.length
decreasing_by
  · exact anyElementFront?_shorter _element
  · exact Nat.lt_succ_self _

theorem closingOutside?_suffix {s rest : List Char} (found : closingOutside? s = some rest) :
    rest <:+ s := by
  fun_induction closingOutside? s with
  | case1 => contradiction
  | case2 c s after element ih =>
    obtain ⟨front, whole⟩ := anyElementFront?_suffix element
    have inner : after <:+ c :: s := ⟨_, whole.symm⟩
    exact (ih found).trans inner
  | case3 c s _ after closed =>
    cases found
    exact ⟨commentClosing, (dropFront?_eq_some_iff.mp closed).symm⟩
  | case4 c s _ _ ih => exact (ih found).trans (List.suffix_cons c s)

/-- Recognises comments in which elements are elements. -/
def commentsAround : Scanner Unit where
  run s := ((dropFront? commentOpening s).bind closingOutside?).map fun rest => ((), rest)
  shorter {s item rest} found := by
    obtain ⟨after, read, same⟩ := Option.map_eq_some_iff.mp found
    cases same
    obtain ⟨body, opened, closed⟩ := Option.bind_eq_some_iff.mp read
    have shorter := (closingOutside?_suffix closed).length_le
    rw [dropFront?_eq_some_iff.mp opened]
    simp only [commentOpening, List.length_append, List.length_cons]
    omega
  suffix {s item rest} found := by
    obtain ⟨after, read, same⟩ := Option.map_eq_some_iff.mp found
    cases same
    obtain ⟨body, opened, closed⟩ := Option.bind_eq_some_iff.mp read
    obtain ⟨front, whole⟩ := closingOutside?_suffix closed
    refine ⟨commentOpening ++ front, ?_⟩
    rw [dropFront?_eq_some_iff.mp opened, List.append_assoc, whole]

/-! ### Protected markup from left to right -/

theorem protect_nil (store : Store) : protect [] store = ([], store) := by
  rw [protect, protectElements, Scanner.pieces_nil]
  rfl

theorem protect_plain {c : Char} {s : List Char} (store : Store)
    (absent : anyElementFront? verbatimTags (c :: s) = none) :
    protect (c :: s) store = (c :: (protect s store).1, (protect s store).2) := by
  have none : (elements verbatimTags).run (c :: s) = none := Option.map_eq_none_iff.mpr absent
  rw [protect, protectElements, Scanner.pieces_plain none]
  rfl

theorem protect_element {source rest : List Char} (store : Store)
    (present : anyElementFront? verbatimTags (source ++ rest) = some rest) :
    protect (source ++ rest) store = (store.token store.size ++ (protect rest (store.add source)).1,
      (protect rest (store.add source)).2) := by
  have found : (elements verbatimTags).run (source ++ rest) = some ((), rest) :=
    Option.map_eq_some_iff.mpr ⟨rest, present, rfl⟩
  rw [protect, protectElements, Scanner.pieces_found found]
  rfl

/-- An element begins with a bracket. -/
theorem anyElementFront?_of_ne {tags : List (List Char)} {c : Char} (s : List Char)
    (differs : c ≠ '<') : anyElementFront? tags (c :: s) = none := by
  rw [anyElementFront?, List.findSome?_eq_none_iff]
  intro tag _
  unfold elementFront?
  split
  next same =>
    cases same
    contradiction
  next => rfl

/-- Text in which no element begins stays as it is. -/
theorem protect_skip {front s : List Char} (store : Store)
    (skips : Skips (anyElementFront? verbatimTags) front s) :
    protect (front ++ s) store = (front ++ (protect s store).1, (protect s store).2) := by
  induction front with
  | nil => rfl
  | cons c front ih =>
    rw [List.cons_append, protect_plain store skips.head, ih skips.tail]
    rfl

theorem protect_append {front : List Char} (absent : '<' ∉ front) (s : List Char) (store : Store) :
    protect (front ++ s) store = (front ++ (protect s store).1, (protect s store).2) :=
  protect_skip store (.of_not_mem (fun _ _ differs => anyElementFront?_of_ne _ differs) absent s)

/-- No element begins with the opening mark of a comment. -/
theorem anyElementFront?_opening (s : List Char) :
    anyElementFront? verbatimTags (commentOpening ++ s) = none := by
  have letters (tag : List Char) (listed : tag ∈ verbatimTags) :
      nameFront? tag ('!' :: '-' :: '-' :: s) = none := by
    simp only [verbatimTags, List.mem_cons, List.not_mem_nil, or_false] at listed
    rcases listed with rfl | rfl | rfl <;> rfl
  rw [anyElementFront?, List.findSome?_eq_none_iff]
  intro tag listed
  simp only [commentOpening, List.cons_append, List.nil_append, elementFront?, letters tag listed]

theorem protect_opening (s : List Char) (store : Store) :
    protect (commentOpening ++ s) store
      = (commentOpening ++ (protect s store).1, (protect s store).2) := by
  have absent : '<' ∉ ['!', '-', '-'] := by decide
  have plain : anyElementFront? verbatimTags ('<' :: (['!', '-', '-'] ++ s)) = none :=
    anyElementFront?_opening s
  have shape : commentOpening ++ s = '<' :: (['!', '-', '-'] ++ s) := rfl
  rw [shape, protect_plain store plain, protect_append absent]
  rfl

/-- A mark without percent signs begins what is left of a markup only where it begins the markup. -/
theorem prefix_of_protect {mark s : List Char} {store : Store} (plain : '%' ∉ mark)
    (begins : mark <+: (protect s store).1) : mark <+: s := by
  have begun := Store.prefix_of_keepPieces plain begins
  rwa [(elements verbatimTags).source_pieces] at begun

/-! ### Comments in protected markup -/

/-- In protected markup a comment ends where it does in the markup if elements are passed over. -/
theorem cutAt?_protect (store : Store) (lettered : store.Lettered) (s : List Char) :
    match closingOutside? s with
    | some rest => ∃ front later,
        cutAt? commentClosing (protect s store).1 = some (front, (protect rest later).1)
          ∧ (protect rest later).2 = (protect s store).2
    | none => cutAt? commentClosing (protect s store).1 = none := by
  fun_induction closingOutside? s generalizing store with
  | case1 =>
    rw [protect_nil]
    rfl
  | case2 c s after element ih =>
    obtain ⟨front, whole⟩ := anyElementFront?_suffix element
    rw [whole] at element ⊢
    have inner := ih (store.add ('<' :: front)) lettered
    -- The closing mark does not begin in a token.
    have skips (text : List Char) :
        Skips (dropFront? commentClosing) (store.token store.size) text :=
      Skips.of_not_mem (fun _ _ other => dropFront?_cons_ne _ _ other)
        (Store.notMem_token lettered (by decide) _) text
    rw [protect_element store element]
    simp only [cutAt?_skip (skips _)]
    cases closed : closingOutside? after with
    | none =>
      rw [closed] at inner
      simp only [inner, Option.map_none]
    | some rest =>
      rw [closed] at inner
      obtain ⟨before, later, cut, same⟩ := inner
      refine ⟨store.token store.size ++ before, later, ?_, same⟩
      rw [cut, Option.map_some]
  | case3 c s none after closed =>
    rw [dropFront?_eq_some_iff.mp closed, protect_append (by decide)]
    refine ⟨[], store, ?_, rfl⟩
    exact cutAt?_append (by decide) (.nil _ _)
  | case4 c s plain open_ ih =>
    have inner := ih store lettered
    -- A closing mark that begins here in what is left would begin here in the markup.
    have absent : dropFront? commentClosing (c :: (protect s store).1) = none := by
      rw [Option.eq_none_iff_forall_ne_some]
      intro rest found
      have whole : commentClosing <+: (protect (c :: s) store).1 := by
        rw [protect_plain store plain]
        exact ⟨rest, (dropFront?_eq_some_iff.mp found).symm⟩
      obtain ⟨tail, shape⟩ := prefix_of_protect (by decide) whole
      rw [dropFront?_eq_some_iff.mpr shape.symm] at open_
      contradiction
    rw [protect_plain store plain]
    simp only [cutAt?, absent]
    cases closed : closingOutside? s with
    | none =>
      rw [closed] at inner
      simp only [inner, Option.map_none]
    | some rest =>
      rw [closed] at inner
      obtain ⟨before, later, cut, same⟩ := inner
      exact ⟨c :: before, later, by rw [cut, Option.map_some], same⟩

/-- Where a comment begins in the markup, passing over elements, one begins in what is left of it,
and the same is left after it. -/
theorem comments_run_protect {store : Store} (lettered : store.Lettered) {s : List Char}
    (plain : anyElementFront? verbatimTags s = none) :
    match commentsAround.run s with
    | some found => ∃ later,
        comments.run (protect s store).1 = some ((), (protect found.2 later).1)
          ∧ (protect found.2 later).2 = (protect s store).2
    | none => comments.run (protect s store).1 = none := by
  cases opened : dropFront? commentOpening s with
  | none =>
    -- The mark has no percent sign, so that it was there before tokens were written.
    have absent : dropFront? commentOpening (protect s store).1 = none := by
      rw [Option.eq_none_iff_forall_ne_some]
      intro rest found
      have begins : commentOpening <+: (protect s store).1 :=
        ⟨rest, (dropFront?_eq_some_iff.mp found).symm⟩
      obtain ⟨tail, shape⟩ := prefix_of_protect (by decide) begins
      rw [dropFront?_eq_some_iff.mpr shape.symm] at opened
      contradiction
    simp [commentsAround, comments, commentFront?, opened, absent]
  | some body =>
    obtain rfl := dropFront?_eq_some_iff.mp opened
    have cut := cutAt?_protect store lettered body
    have front := dropFront?_append commentOpening (protect body store).1
    rw [protect_opening]
    simp only [commentsAround, comments, commentFront?, opened, front, Option.bind_some]
    cases closed : closingOutside? body with
    | none =>
      rw [closed] at cut
      simp only [cut, Option.map_none]
    | some rest =>
      rw [closed] at cut
      obtain ⟨before, later, cut, same⟩ := cut
      refine ⟨later, ?_, same⟩
      rw [cut]
      rfl

/-! ### Both passes -/

theorem stripComments_plain {c : Char} {s : List Char} (absent : comments.run (c :: s) = none) :
    stripComments (c :: s) = c :: stripComments s := by
  rw [stripComments, Scanner.replace, Scanner.pieces_plain absent]
  rfl

/-- Without the opening mark of a comment there is nothing to strip. -/
theorem stripComments_of_absent {s : List Char} (absent : ¬ commentOpening <:+: s) :
    stripComments s = s := by
  induction s with
  | nil => exact congrArg (List.flatMap _) (Scanner.pieces_nil comments)
  | cons c s ih =>
    have bare : dropFront? commentOpening (c :: s) = none := by
      rw [Option.eq_none_iff_forall_not_mem]
      intro rest found
      exact absent ⟨[], rest, (dropFront?_eq_some_iff.mp found).symm⟩
    have closed : commentFront? (c :: s) = none := by rw [commentFront?, bare, Option.bind_none]
    have later : ¬ commentOpening <:+: s := fun inside =>
      absent (inside.trans (List.suffix_cons _ _).isInfix)
    rw [stripComments_plain (Option.map_eq_none_iff.mpr closed), ih later]

theorem stripComments_comment {s rest : List Char} (present : comments.run s = some ((), rest)) :
    stripComments s = stripComments rest := by
  obtain ⟨front, rfl⟩ := comments.suffix present
  rw [stripComments, Scanner.replace, Scanner.pieces_found present]
  rfl

theorem stripComments_token {store : Store} (lettered : store.Lettered) (place : Nat)
    (s : List Char) :
    stripComments (store.token place ++ s) = store.token place ++ stripComments s := by
  have skips : Skips comments.run (store.token place) s :=
    Skips.of_not_mem comments_steady.needs (Store.notMem_token lettered (by decide) place) s
  rw [stripComments, Scanner.replace, Scanner.pieces_skip skips, List.flatMap_append,
    Store.flatMap_plain _ fun _ => rfl]
  rfl

theorem elementsOr_eq_none {dropped : Scanner Unit} {s : List Char}
    (absent : (elementsOr dropped).run s = none) :
    anyElementFront? verbatimTags s = none ∧ dropped.run s = none := by
  simp only [elementsOr] at absent
  split at absent
  · contradiction
  next element => exact ⟨element, Option.map_eq_none_iff.mp absent⟩

theorem elementsOr_eq_some {dropped : Scanner Unit} {s rest : List Char} {item : Bool}
    (present : (elementsOr dropped).run s = some (item, rest)) :
    item = true ∧ anyElementFront? verbatimTags s = some rest
      ∨ item = false ∧ anyElementFront? verbatimTags s = none
        ∧ dropped.run s = some ((), rest) := by
  simp only [elementsOr] at present
  split at present
  next after element =>
    cases present
    exact .inl ⟨rfl, element⟩
  next element =>
    obtain ⟨found, read, same⟩ := Option.map_eq_some_iff.mp present
    cases same
    exact .inr ⟨rfl, element, read⟩

/-- What the passes leave of a markup is what is read of it, with tokens for the elements. -/
theorem restores_stripComments {store later : Store} (lettered : store.Lettered) {s : List Char}
    (plain : '%' ∉ s) (grown : Store.Extends (protect s store).2 later) :
    later.Restores (stripComments (protect s store).1) (readApart commentsAround s) := by
  induction s using (elementsOr commentsAround).induction generalizing store with
  | nil =>
    have nothing : readApart commentsAround [] = [] := by
      rw [readApart, Scanner.pieces_nil]
      rfl
    have left : stripComments [] = [] := by
      rw [stripComments, Scanner.replace, Scanner.pieces_nil]
      rfl
    rw [protect_nil, nothing, left]
    exact .nil
  | plain c s absent ih =>
    obtain ⟨element, comment⟩ := elementsOr_eq_none absent
    have found := comments_run_protect lettered element
    rw [comment, protect_plain store element] at found
    rw [protect_plain store element] at grown ⊢
    simp only [List.mem_cons, not_or] at plain
    rw [stripComments_plain found, readApart, Scanner.pieces_plain absent]
    exact .plain (Ne.symm plain.1) (ih lettered plain.2 grown)
  | found item source rest present ih =>
    have behind : '%' ∉ rest := fun inside => plain (List.mem_append_right source inside)
    rw [readApart, Scanner.pieces_found present]
    rcases elementsOr_eq_some present with ⟨rfl, element⟩ | ⟨rfl, element, comment⟩
    · -- An element is kept: its token stands for it in the store.
      have kept : later.fragments[store.size]? = some source := by
        obtain ⟨more, shape⟩ := grown.fragments
        rw [protect_element store element] at shape
        rw [← shape, protect_fragments, Store.add, Store.size, List.append_assoc,
          List.append_assoc, List.getElem?_append_right (Nat.le_refl _), Nat.sub_self]
        rfl
      rw [protect_element store element] at grown ⊢
      have added : (store.add source).Lettered := lettered
      have token : store.token store.size = later.token store.size := by
        have extended := (protect_extends rest (store.add source)).trans grown
        exact (extended.token _).symm
      rw [stripComments_token lettered, token]
      exact .token kept (ih added behind grown)
    · -- A comment is dropped, and the reading goes on after it in both texts.
      have found := comments_run_protect lettered element
      rw [comment] at found
      obtain ⟨next, stripped, same⟩ := found
      have nonce : next.Lettered := by
        have one := (protect_extends rest next).nonce
        have two := (protect_extends (source ++ rest) store).nonce
        rw [Store.Lettered, ← one, same, two]
        exact lettered
      rw [stripComments_comment stripped]
      rw [← same] at grown
      exact ih nonce behind grown

/-! ### What starts first -/

/-- No element begins inside of a comment among pieces. -/
def CommentsPlain : List (Piece Bool) → Prop
  | [] => True
  | .found false source :: pieces =>
    Skips (anyElementFront? verbatimTags) source (pieces.flatMap Piece.source)
      ∧ CommentsPlain pieces
  | .found true _ :: pieces => CommentsPlain pieces
  | .plain _ :: pieces => CommentsPlain pieces

theorem closingOutside?_of_skips {body rest : List Char}
    (skips : Skips (anyElementFront? verbatimTags) body (commentClosing ++ rest))
    (cut : cutAt? commentClosing (body ++ (commentClosing ++ rest)) = some (body, rest)) :
    closingOutside? (body ++ (commentClosing ++ rest)) = some rest := by
  induction body with
  | nil =>
    have closed : dropFront? commentClosing ('-' :: '-' :: '>' :: rest) = some rest :=
      dropFront?_append commentClosing rest
    -- No element begins at the closing mark itself.
    have plain : anyElementFront? verbatimTags ('-' :: '-' :: '>' :: rest) = none :=
      anyElementFront?_of_ne _ (by decide)
    show closingOutside? ('-' :: '-' :: '>' :: rest) = some rest
    rw [closingOutside?]
    split
    next after element =>
      rw [plain] at element
      contradiction
    next => simp only [closed]
  | cons c body ih =>
    rw [List.cons_append] at cut ⊢
    rw [cutAt?] at cut
    split at cut
    next after front =>
      cases cut
    next absent =>
      obtain ⟨⟨front, after⟩, inner, same⟩ := Option.map_eq_some_iff.mp cut
      cases same
      rw [closingOutside?]
      split
      next after element =>
        rw [skips.head] at element
        contradiction
      next => simp only [absent, ih skips.tail inner]

/-- A comment has an end somewhere if it has one outside of elements. -/
theorem cutAt?_isSome_of_closingOutside? {s rest : List Char}
    (found : closingOutside? s = some rest) : (cutAt? commentClosing s).isSome = true := by
  have inside : commentClosing ++ rest <:+ s := by
    fun_induction closingOutside? s with
    | case1 => contradiction
    | case2 c s after element ih =>
      obtain ⟨front, whole⟩ := anyElementFront?_suffix element
      exact (ih found).trans ⟨_, whole.symm⟩
    | case3 c s _ after closed =>
      cases found
      rw [dropFront?_eq_some_iff.mp closed]
    | case4 c s _ _ ih => exact (ih found).trans (List.suffix_cons c s)
  obtain ⟨front, rfl⟩ := inside
  exact cutAt?_isSome _ _ _

/-- Where no element begins in a comment, it ends in both readings at the same place. -/
theorem commentsAround_run {s : List Char}
    (plain : ∀ source rest, comments.run s = some ((), rest) → s = source ++ rest →
      Skips (anyElementFront? verbatimTags) source rest) :
    commentsAround.run s = comments.run s := by
  cases opened : dropFront? commentOpening s with
  | none => simp [commentsAround, comments, commentFront?, opened]
  | some body =>
    obtain rfl := dropFront?_eq_some_iff.mp opened
    cases cut : cutAt? commentClosing body with
    | none =>
      have open_ : closingOutside? body = none := by
        rw [Option.eq_none_iff_forall_ne_some]
        intro rest found
        have closed := cutAt?_isSome_of_closingOutside? found
        rw [cut] at closed
        contradiction
      simp [commentsAround, comments, commentFront?, opened, cut, open_]
    | some parts =>
      obtain ⟨inner, rest⟩ := parts
      have shape := cutAt?_eq_append cut
      rw [List.append_assoc] at shape
      subst shape
      have found : comments.run (commentOpening ++ (inner ++ (commentClosing ++ rest)))
          = some ((), rest) := by
        simp [comments, commentFront?, opened, cut]
      have skips := plain (commentOpening ++ (inner ++ commentClosing)) rest found (by simp)
      -- The elements would have to begin between the two marks.
      have between : Skips (anyElementFront? verbatimTags) inner (commentClosing ++ rest) := by
        intro tail ending nonempty
        have whole : tail ++ commentClosing <:+ commentOpening ++ (inner ++ commentClosing) := by
          obtain ⟨front, rfl⟩ := ending
          exact ⟨commentOpening ++ front, by simp⟩
        have absent := skips (tail ++ commentClosing) whole (by simp [nonempty])
        rwa [List.append_assoc] at absent
      have closed := closingOutside?_of_skips between cut
      simp [commentsAround, comments, commentFront?, opened, cut, closed]

/-- Where no element begins inside of a comment, none is passed over in it. -/
theorem elementsOr_run_of_commentsPlain {s : List Char}
    (plain : CommentsPlain ((elementsOr comments).pieces s)) :
    (elementsOr commentsAround).run s = (elementsOr comments).run s := by
  cases element : anyElementFront? verbatimTags s with
  | some rest => simp only [elementsOr, element]
  | none =>
    have ends : commentsAround.run s = comments.run s := by
      apply commentsAround_run
      intro source rest found shape
      have read : (elementsOr comments).run (source ++ rest) = some (false, rest) := by
        rw [← shape]
        simp only [elementsOr, element, found, Option.map_some]
      rw [shape, Scanner.pieces_found read] at plain
      have first := plain.1
      rwa [Scanner.source_pieces] at first
    simp only [elementsOr, element, ends]

/-- Where no element begins inside of a comment, what starts first decides. -/
theorem readApart_of_commentsPlain {s : List Char}
    (plain : CommentsPlain ((elementsOr comments).pieces s)) :
    readApart commentsAround s = readApart comments s := by
  induction s using (elementsOr comments).induction with
  | nil => rw [readApart, readApart, Scanner.pieces_nil, Scanner.pieces_nil]
  | plain c s absent ih =>
    have same := (elementsOr_run_of_commentsPlain plain).trans absent
    rw [Scanner.pieces_plain absent] at plain
    have rest := ih plain
    unfold readApart at rest ⊢
    rw [Scanner.pieces_plain absent, Scanner.pieces_plain same, List.flatMap_cons,
      List.flatMap_cons, rest]
  | found item source after present ih =>
    have same := (elementsOr_run_of_commentsPlain plain).trans present
    rw [Scanner.pieces_found present] at plain
    have inner : CommentsPlain ((elementsOr comments).pieces after) := by
      cases item with
      | true => exact plain
      | false => exact plain.2
    have rest := ih inner
    unfold readApart at rest ⊢
    rw [Scanner.pieces_found present, Scanner.pieces_found same, List.flatMap_cons,
      List.flatMap_cons, rest]

/-- Taking out the elements, removing the comments and putting the elements back reads a markup from
left to right: elements are kept, and comments that end outside of elements are dropped, with all
that is in them. Where no element begins inside of a comment, what starts first decides. -/
theorem restore_stripComments_protect (store : Store) (lettered : store.Lettered) {s : List Char}
    (plain : '%' ∉ s) :
    restore (stripComments (protect s store).1) (protect s store).2
        = .ok (readApart commentsAround s)
      ∧ (CommentsPlain ((elementsOr comments).pieces s) →
        readApart commentsAround s = readApart comments s) := by
  have restored := restores_stripComments lettered plain (.refl _)
  exact ⟨restored.restore, readApart_of_commentsPlain⟩

/-! ### Elements inside of comments -/

/-- A comment that mentions an element, which goes on behind it. -/
def mentioned : List Char := "<!-- <pre> --><i>a</i><pre></pre>".toList

/-- What starts first would decide that the comment is dropped and the second element kept. -/
theorem restore_stripComments_mentioned :
    let store : Store := .empty ['n']
    '%' ∉ mentioned
      ∧ restore (stripComments (protect mentioned store).1) (protect mentioned store).2
        = .ok mentioned
      ∧ readApart comments mentioned = "<i>a</i><pre></pre>".toList
      ∧ readApart comments mentioned ≠ mentioned := by
  intro store
  have first : readApart comments mentioned = "<i>a</i><pre></pre>".toList := by decide +kernel
  refine ⟨by decide, by decide +kernel, first, ?_⟩
  rw [first]
  decide

/-- A comment with an element in it is dropped up to its end after the element, and an element with
a comment in it is kept. A comment that mentions a closing tag only is dropped in both readings. -/
theorem restore_stripComments_nested :
    let store : Store := ⟨['n'], [['a']]⟩
    let markup := "a<!-- b<pre>--></pre> c -->d<code><!-- e --></code>".toList
    let simple := "<!-- /pre> -->b<pre></pre>".toList
    store.Lettered ∧ '%' ∉ markup
      ∧ restore (stripComments (protect markup store).1) (protect markup store).2
        = .ok "ad<code><!-- e --></code>".toList
      ∧ '%' ∉ simple ∧ CommentsPlain ((elementsOr comments).pieces simple)
      ∧ restore (stripComments (protect simple store).1) (protect simple store).2
        = .ok (readApart comments simple) := by
  intro store markup simple
  have lettered : store.Lettered := by
    intro c inside
    rw [List.mem_singleton.mp inside]
    rfl
  have plain : '%' ∉ markup := by decide
  have read : readApart commentsAround markup = "ad<code><!-- e --></code>".toList := by
    decide +kernel
  have free : '%' ∉ simple := by decide
  have first : (elementsOr comments).run ("<!-- /pre> -->".toList ++ "b<pre></pre>".toList)
      = some (false, "b<pre></pre>".toList) := by decide +kernel
  have second : (elementsOr comments).run ('b' :: "<pre></pre>".toList) = none := by decide +kernel
  have third : (elementsOr comments).run ("<pre></pre>".toList ++ []) = some (true, []) := by
    decide +kernel
  have skips (rest : List Char) :
      Skips (anyElementFront? verbatimTags) "<!-- /pre> -->".toList rest := by
    -- Only the first character of the comment is an opening bracket.
    have opened := anyElementFront?_opening (" /pre> -->".toList ++ rest)
    have shape : "<!-- /pre> -->".toList = '<' :: "!-- /pre> -->".toList := by decide
    have split : '<' :: "!-- /pre> -->".toList = commentOpening ++ " /pre> -->".toList := by decide
    rw [← List.append_assoc, ← split, List.cons_append] at opened
    rw [shape]
    apply Skips.cons opened
    exact Skips.of_not_mem (fun _ s differs => anyElementFront?_of_ne s differs) (by decide) rest
  have apart : CommentsPlain ((elementsOr comments).pieces simple) := by
    have shape : simple = "<!-- /pre> -->".toList ++ "b<pre></pre>".toList := by decide
    have tail : "b<pre></pre>".toList = 'b' :: "<pre></pre>".toList := by decide
    rw [shape, Scanner.pieces_found first]
    refine ⟨skips _, ?_⟩
    rw [tail, Scanner.pieces_plain second, ← List.append_nil "<pre></pre>".toList,
      Scanner.pieces_found third, Scanner.pieces_nil]
    trivial
  obtain ⟨whole, same⟩ := restore_stripComments_protect store lettered free
  refine ⟨lettered, plain, ?_, free, apart, ?_⟩
  · rw [(restore_stripComments_protect store lettered plain).1, read]
  · rw [whole, same apart]

end StaticSite.Markup
