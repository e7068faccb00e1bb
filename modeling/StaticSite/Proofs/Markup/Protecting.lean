import StaticSite.Proofs.Markup.Restoring

/-!
# Elements taken out and put back

Markup in which no token begins comes back as it was when its elements are put back, whatever else
the store has been given meanwhile. Percent signs may stand anywhere in it: a token begins with two
of them and has no other one before its number, so what is left of the markup cannot make up the
start of a token together with a token that follows it.
-/

namespace StaticSite.Markup

open StaticSite.Text

namespace Store

variable {store later : Store}

/-! ### What happens to a store -/

/-- One use of a store: a fragment is kept, or the elements of a markup are taken out. -/
inductive Use where
  | add (fragment : List Char)
  | protect (s : List Char)

namespace Use

def apply (store : Store) : Use → Store
  | .add fragment => store.add fragment
  | .protect s => (Markup.protect s store).2

theorem extends_apply (store : Store) (use : Use) : Extends store (use.apply store) := by
  cases use with
  | add fragment => exact ⟨rfl, List.prefix_append _ _⟩
  | protect s => exact protect_extends s store

end Use

def afterUses (store : Store) (uses : List Use) : Store := uses.foldl Use.apply store

theorem extends_afterUses (store : Store) (uses : List Use) :
    Extends store (store.afterUses uses) := by
  induction uses generalizing store with
  | nil => exact .refl store
  | cons use uses ih => exact (use.extends_apply store).trans (ih (use.apply store))

/-- What a store has given out stays as it is. -/
theorem Extends.get (grown : Extends store later) {place : Nat} (kept : place < store.size) :
    later.get place = store.get place := by
  obtain ⟨fragment, found⟩ : ∃ fragment, store.fragments[place]? = some fragment :=
    ⟨_, List.getElem?_eq_getElem kept⟩
  have still : later.fragments[place]? = some fragment := by
    obtain ⟨more, whole⟩ := grown.fragments
    rw [← whole, List.getElem?_append_left kept, found]
  rw [get_natCast found, get_natCast still]

theorem tokenStart_congr (same : later.nonce = store.nonce) :
    later.tokenStart = store.tokenStart := by
  simp only [tokenStart_eq, same]

/-! ### Markup that is left when its elements are taken out -/

theorem keepPieces_plain (store : Store) (c : Char) (pieces : List (Piece Unit)) :
    (keepPieces store (.plain c :: pieces)).1 = c :: (keepPieces store pieces).1 := rfl

theorem keepPieces_found (store : Store) (item : Unit) (source : List Char)
    (pieces : List (Piece Unit)) : (keepPieces store (.found item source :: pieces)).1
      = store.token store.size ++ (keepPieces (store.add source) pieces).1 := rfl

/-- What is left of a markup begins with the characters that begin the markup, as far as they are
no percent signs: these are plain. -/
theorem plain_of_keepPieces {front back : List Char} {pieces : List (Piece Unit)}
    (plain : '%' ∉ front) (whole : (keepPieces store pieces).1 = front ++ back) :
    ∃ rest, pieces = front.map .plain ++ rest ∧ (keepPieces store rest).1 = back := by
  induction front generalizing pieces with
  | nil => exact ⟨pieces, rfl, whole⟩
  | cons c front ih =>
    rw [List.mem_cons, not_or] at plain
    cases pieces with
    | nil => contradiction
    | cons piece pieces =>
      cases piece with
      | plain d =>
        rw [keepPieces_plain] at whole
        obtain ⟨rfl, inner⟩ := List.cons.inj whole
        obtain ⟨rest, rfl, left⟩ := ih plain.2 inner
        exact ⟨rest, rfl, left⟩
      | found item source =>
        -- An element would have left a token, which begins with a percent sign.
        rw [keepPieces_found, token_eq, tokenStart_eq] at whole
        exact absurd (List.cons.inj whole).1 plain.1

theorem split_of_keepPieces {front back : List Char} {pieces : List (Piece Unit)}
    (plain : '%' ∉ front) (whole : (keepPieces store pieces).1 = front ++ back) :
    ∃ rest, pieces.flatMap Piece.source = front ++ rest.flatMap Piece.source
      ∧ (keepPieces store rest).1 = back := by
  obtain ⟨rest, rfl, left⟩ := plain_of_keepPieces plain whole
  exact ⟨rest, by rw [List.flatMap_append, flatMap_plain _ fun _ => rfl], left⟩

/-- What begins what is left of a markup and has no percent sign begins the markup as well: it ends
before the first token. -/
theorem prefix_of_keepPieces {mark : List Char} {pieces : List (Piece Unit)} (plain : '%' ∉ mark)
    (begins : mark <+: (keepPieces store pieces).1) : mark <+: pieces.flatMap Piece.source := by
  obtain ⟨back, whole⟩ := begins
  obtain ⟨rest, same, -⟩ := split_of_keepPieces plain whole.symm
  exact ⟨_, same.symm⟩

/-- Where the start of a token begins at a plain character, it began there in the markup. -/
theorem tokenStart_of_keepPieces {c : Char} {pieces : List (Piece Unit)}
    (plain : '%' ∉ store.nonce)
    (begins : store.tokenStart <+: c :: (keepPieces store pieces).1) :
    store.tokenStart <+: c :: pieces.flatMap Piece.source := by
  have word : '%' ∉ "VERBATIM_".toList ++ store.nonce ++ ['_'] := by simp [plain]
  rw [tokenStart_eq] at begins ⊢
  obtain ⟨rfl, second⟩ := List.cons_prefix_cons.mp begins
  refine List.cons_prefix_cons.mpr ⟨rfl, ?_⟩
  cases pieces with
  | nil => exact second
  | cons piece pieces =>
    cases piece with
    | plain d =>
      rw [keepPieces_plain] at second
      obtain ⟨rfl, rest⟩ := List.cons_prefix_cons.mp second
      exact List.cons_prefix_cons.mpr ⟨rfl, prefix_of_keepPieces word rest⟩
    | found item source =>
      -- The second percent sign would be the first one of a token, and a letter its second.
      rw [keepPieces_found, token_eq, tokenStart_eq] at second
      have third := (List.cons_prefix_cons.mp second).2
      have letter : "VERBATIM_".toList = 'V' :: "ERBATIM_".toList := by decide
      rw [letter] at third
      exact absurd (List.cons_prefix_cons.mp third).1 (by decide)

/-! ### Putting the elements back -/

/-- A plain character of the markup is read as one, if no token begins in the markup. -/
theorem tokens_run_keepPieces {c : Char} {pieces : List (Piece Unit)} (plain : '%' ∉ store.nonce)
    (same : later.nonce = store.nonce)
    (absent : ¬ later.tokenStart <:+: c :: pieces.flatMap Piece.source) :
    later.tokens.run (c :: (keepPieces store pieces).1) = none := by
  have start := tokenStart_congr same
  have apart : dropFront? later.tokenStart (c :: (keepPieces store pieces).1) = none := by
    rw [Option.eq_none_iff_forall_not_mem]
    intro rest found
    have begins : store.tokenStart <+: c :: (keepPieces store pieces).1 :=
      ⟨rest, (start ▸ dropFront?_eq_some_iff.mp found).symm⟩
    exact absent (start ▸ (tokenStart_of_keepPieces plain begins).isInfix)
  show later.tokenFront? _ = none
  rw [tokenFront?, apart, Option.bind_none]

theorem restorePieces_keepPieces {pieces : List (Piece Unit)} (plain : '%' ∉ store.nonce)
    (grown : Extends (keepPieces store pieces).2 later)
    (absent : ¬ later.tokenStart <:+: pieces.flatMap Piece.source) :
    restorePieces later (later.tokens.pieces (keepPieces store pieces).1)
      = .ok (pieces.flatMap Piece.source) := by
  induction pieces generalizing store with
  | nil =>
    have nothing : later.tokens.pieces (keepPieces store []).1 = [] := Scanner.pieces_nil _
    rw [nothing]
    rfl
  | cons piece pieces ih =>
    rw [List.flatMap_cons] at absent ⊢
    have inner : ¬ later.tokenStart <:+: pieces.flatMap Piece.source := fun inside =>
      absent (inside.trans (List.suffix_append _ _).isInfix)
    have extended := (keepPieces_extends store (piece :: pieces)).trans grown
    cases piece with
    -- A character that is kept begins no token: the mark of one would be in the text.
    | plain c =>
      have read := tokens_run_keepPieces plain extended.nonce absent
      rw [keepPieces_plain, Scanner.pieces_plain read, Markup.restorePieces, ih plain grown inner]
      rfl
    | found item source =>
      -- The store has grown since, at its end, so the place still holds the element.
      have kept : later.fragments[store.size]? = some source := by
        obtain ⟨more, whole⟩ := grown.fragments
        rw [← whole, keepPieces_fragments, sources, size, List.append_assoc, List.cons_append,
          List.getElem?_append_right (Nat.le_refl _), Nat.sub_self]
        rfl
      have token : store.token store.size = later.token store.size := (extended.token _).symm
      have present : later.tokens.run (later.token store.size
          ++ (keepPieces (store.add source) pieces).1)
          = some (store.size, (keepPieces (store.add source) pieces).1) :=
        tokenFront?_token later store.size _
      have added : '%' ∉ (store.add source).nonce := plain
      have rest := ih added grown inner
      rw [keepPieces_found, token, Scanner.pieces_found present, Markup.restorePieces,
        get_natCast kept, rest]
      rfl

/-- Where there is nothing to take out, the markup and the store stay as they are. -/
theorem keepPieces_of_no_sources (store : Store) {pieces : List (Piece Unit)}
    (none : sources pieces = []) :
    keepPieces store pieces = (pieces.flatMap Piece.source, store) := by
  induction pieces with
  | nil => rfl
  | cons piece pieces ih =>
    cases piece with
    | plain c =>
      rw [keepPieces, ih none]
      rfl
    | found item source => contradiction

/-- Putting back what has been taken out of the pieces of a text gives the text. -/
theorem restore_keepPieces {pieces : List (Piece Unit)} (plain : '%' ∉ store.nonce)
    (grown : Extends (keepPieces store pieces).2 later)
    (absent : ¬ later.tokenStart <:+: pieces.flatMap Piece.source) :
    restore (keepPieces store pieces).1 later = .ok (pieces.flatMap Piece.source) := by
  unfold restore
  split
  next empty =>
    -- A store that has kept nothing has found no elements.
    have fragments := keepPieces_fragments store pieces
    have none : (keepPieces store pieces).2.fragments = [] :=
      List.prefix_nil.mp (List.isEmpty_iff.mp empty ▸ grown.fragments)
    rw [none] at fragments
    have sources := (List.append_eq_nil_iff.mp fragments.symm).2
    exact congrArg Except.ok (congrArg Prod.fst (keepPieces_of_no_sources store sources))
  next => exact restorePieces_keepPieces plain grown absent

/-- A mark that begins in no token stands in what is left of a markup only where its characters stand
in the markup, outside of the elements. -/
theorem plain_infix_of_keepPieces {c : Char} {mark : List Char} {pieces : List (Piece Unit)}
    (lettered : store.Lettered) (foreign : isTokenChar c = false) (plain : '%' ∉ mark)
    (inside : c :: mark <:+: (keepPieces store pieces).1) :
    (c :: mark).map .plain <:+: pieces := by
  induction pieces generalizing store with
  | nil => cases List.infix_nil.mp inside
  | cons piece pieces ih =>
    cases piece with
    | plain d =>
      rcases List.infix_cons_iff.mp inside with ⟨back, begins⟩ | later
      · have whole : '%' ∉ c :: mark := by
          rw [List.mem_cons, not_or]
          refine ⟨?_, plain⟩
          rintro rfl
          contradiction
        rw [← keepPieces_plain] at begins
        obtain ⟨rest, shape, -⟩ := plain_of_keepPieces whole begins.symm
        exact ⟨[], rest, shape.symm⟩
      · exact (ih lettered later).trans (List.suffix_cons _ _).isInfix
    | found item source =>
      rw [keepPieces_found] at inside
      have added : (store.add source).Lettered := lettered
      -- The mark does not begin inside of a token, so it stands behind it.
      have later := ih added (infix_of_notMem (notMem_token lettered foreign _) inside)
      exact later.trans (List.suffix_cons _ _).isInfix

theorem infix_of_keepPieces {c : Char} {mark : List Char} {pieces : List (Piece Unit)}
    (lettered : store.Lettered) (foreign : isTokenChar c = false) (plain : '%' ∉ mark)
    (inside : c :: mark <:+: (keepPieces store pieces).1) :
    c :: mark <:+: pieces.flatMap Piece.source := by
  obtain ⟨front, back, rfl⟩ := plain_infix_of_keepPieces lettered foreign plain inside
  refine ⟨front.flatMap Piece.source, back.flatMap Piece.source, ?_⟩
  rw [List.flatMap_append, List.flatMap_append, flatMap_plain _ fun _ => rfl]

end Store

/-- Markup without verbatim elements is not changed when they are taken out. -/
theorem protect_of_no_elements {s : List Char} (store : Store) (none : verbatimElements s = []) :
    protect s store = (s, store) := by
  have same := Store.keepPieces_of_no_sources store none
  rw [(elements verbatimTags).source_pieces] at same
  exact same

/-- Taking the elements out of a markup and putting them back gives the markup, whatever the store
has kept before and is used for in between. What it has given out stays as it was. -/
theorem restore_protect (store : Store) (plain : '%' ∉ store.nonce) (s : List Char)
    (absent : ¬ store.tokenStart <:+: s) (uses : List Store.Use) :
    let kept := protect s store
    let later := kept.2.afterUses uses
    restore kept.1 later = .ok s
      ∧ (∀ place < kept.2.size,
          later.get place = kept.2.get place ∧ later.token place = kept.2.token place)
      ∧ ∀ place < store.size,
          later.get place = store.get place ∧ later.token place = store.token place := by
  intro kept later
  have first : Store.Extends store kept.2 := protect_extends s store
  -- The store grows at its end only, by what is protected and by every later use.
  have second : Store.Extends kept.2 later := kept.2.extends_afterUses uses
  have whole := (elements verbatimTags).source_pieces s
  refine ⟨?_, fun place given => ⟨second.get given, second.token place⟩,
    fun place given => ⟨(first.trans second).get given, (first.trans second).token place⟩⟩
  have start := Store.tokenStart_congr (first.trans second).nonce
  rw [← start, ← whole] at absent
  have restored := Store.restore_keepPieces plain second absent
  rw [whole] at restored
  exact restored

/-- Two elements between percent signs, of which the first spells a token of another store. -/
theorem restore_protect_percent :
    let store : Store := ⟨['n'], [['a']]⟩
    let markup := "%%VERBATIM_<PRE>%%VERBATIM_m_0%%</pre>%<code>b</code>%%".toList
    let kept := protect markup store
    let later := kept.2.afterUses [.add ['c'], .protect "<code></code>".toList]
    kept.1 = "%%VERBATIM_%%VERBATIM_n_1%%%%%VERBATIM_n_2%%%%".toList
      ∧ kept.2.size = 3 ∧ later.size = 5
      ∧ restore kept.1 later = .ok markup := by
  intro store markup kept later
  have absent : ¬ store.tokenStart <:+: markup := by decide +kernel
  have restored := (restore_protect store (by decide) markup absent
    [.add ['c'], .protect "<code></code>".toList]).1
  exact ⟨by decide +kernel, by decide +kernel, by decide +kernel, restored⟩

end StaticSite.Markup
