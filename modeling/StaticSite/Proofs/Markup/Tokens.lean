import StaticSite.Markup.Environment
import StaticSite.Proofs.Component.References
import StaticSite.Proofs.Text.Replacing

/-!
# Markup with tokens

While a page is rendered, its verbatim elements are tokens. The markup is intact if every percent
sign in it belongs to a whole token of the store. A step that only looks for marks of characters
that no token holds keeps it intact: such a mark neither begins nor ends inside of a token.
-/

namespace StaticSite.Markup

open StaticSite.Text

namespace Store

/-- The characters of tokens, if the nonce is made of letters and digits. -/
def isTokenChar (c : Char) : Bool := c.isAlphanum || c = '_' || c = '%'

/-- A mark that neither begins nor ends inside of a token. -/
def isSharp : List Char → Bool
  | [] => false
  | c :: mark => !isTokenChar c && !mark.elem '%'

theorem isSharp_cons {c : Char} {mark : List Char} :
    isSharp (c :: mark) = true ↔ isTokenChar c = false ∧ '%' ∉ mark := by
  simp [isSharp]

/-- The nonce is made of letters and digits. -/
def Lettered (store : Store) : Prop := ∀ c ∈ store.nonce, c.isAlphanum = true

/-- Every percent sign of a text belongs to a whole token of a fragment that the store has. -/
inductive Intact (store : Store) : List Char → Prop where
  | nil : Intact store []
  | plain {c : Char} {s : List Char} (differs : c ≠ '%') (rest : Intact store s) :
      Intact store (c :: s)
  | token {place : Nat} {s : List Char} (kept : place < store.size) (rest : Intact store s) :
      Intact store (store.token place ++ s)

/-- A later state of a store: fragments have been kept after those that were there. -/
structure Extends (store later : Store) : Prop where
  nonce : later.nonce = store.nonce
  fragments : store.fragments <+: later.fragments

variable {store later : Store}

theorem Extends.refl (store : Store) : Extends store store := ⟨rfl, List.prefix_rfl⟩

theorem Extends.trans {last : Store} (first : Extends store later) (second : Extends later last) :
    Extends store last :=
  ⟨second.nonce.trans first.nonce, first.fragments.trans second.fragments⟩

theorem Extends.lettered (grown : Extends store later) (lettered : store.Lettered) :
    later.Lettered := by
  unfold Lettered
  rw [grown.nonce]
  exact lettered

theorem Extends.token (grown : Extends store later) (place : Int) :
    later.token place = store.token place := by
  unfold Store.token tokenStart
  rw [grown.nonce]

/-! ### Tokens -/

theorem nonce_infix_tokenStart (store : Store) : store.nonce <:+: store.tokenStart := by
  unfold tokenStart
  exact ⟨_, _, rfl⟩

theorem tokenStart_eq (store : Store) :
    store.tokenStart = '%' :: '%' :: ("VERBATIM_".toList ++ store.nonce ++ ['_']) := by
  have mark : "%%VERBATIM_".toList = '%' :: '%' :: "VERBATIM_".toList := by decide
  unfold tokenStart
  rw [mark]
  simp only [List.cons_append]

theorem token_eq (store : Store) (place : Nat) :
    store.token place = store.tokenStart ++ (Decimal.natText place ++ tokenEnd) := by
  rw [token, intText_natCast, List.append_assoc]

theorem isTokenChar_of_mem (lettered : store.Lettered) {place : Nat} {c : Char}
    (inside : c ∈ store.token place) : isTokenChar c = true := by
  have word : ∀ c ∈ "VERBATIM_".toList, isTokenChar c = true := List.all_eq_true.mp rfl
  simp only [token_eq, tokenStart_eq, tokenEnd, List.mem_append, List.mem_cons, List.not_mem_nil,
    or_false] at inside
  rcases inside with (rfl | rfl | (inside | inside) | rfl) | inside | rfl | rfl
  · rfl
  · rfl
  · exact word c inside
  · simp [isTokenChar, lettered c inside]
  · rfl
  · have digit : c.isDigit = true := Nat.isDigit_of_mem_toDigits (by decide) (by decide) inside
    simp [isTokenChar, Char.isAlphanum, digit]
  · rfl
  · rfl

theorem notMem_token (lettered : store.Lettered) {c : Char} (foreign : isTokenChar c = false)
    (place : Nat) : c ∉ store.token place := by
  intro inside
  rw [isTokenChar_of_mem lettered inside] at foreign
  contradiction

theorem length_lt_token (store : Store) (place : Nat) (s : List Char) :
    s.length < (store.token place ++ s).length := by
  rw [token_eq, tokenStart_eq]
  simp only [List.length_append, List.length_cons]
  omega

namespace Intact

theorem append {s t : List Char} (first : store.Intact s) (second : store.Intact t) :
    store.Intact (s ++ t) := by
  induction first with
  | nil => exact second
  | plain differs _ ih => exact plain differs ih
  | token kept _ ih =>
    rw [List.append_assoc]
    exact token kept ih

theorem of_notMem {s : List Char} (plain : '%' ∉ s) : store.Intact s := by
  induction s with
  | nil => exact nil
  | cons c s ih =>
    have differs : c ≠ '%' := fun same => plain (same ▸ List.mem_cons_self)
    exact .plain differs (ih fun inside => plain (List.mem_cons_of_mem c inside))

theorem mono {s : List Char} (whole : store.Intact s) (grown : Extends store later) :
    later.Intact s := by
  induction whole with
  | nil => exact nil
  | plain differs _ ih => exact plain differs ih
  | @token place s kept _ ih =>
    have stays : place < later.size := Nat.lt_of_lt_of_le kept grown.fragments.length_le
    rw [← grown.token]
    exact token stays ih

/-- What follows a character other than the percent sign is intact. -/
theorem tail {c : Char} {s : List Char} (differs : c ≠ '%') (whole : store.Intact (c :: s)) :
    store.Intact s := by
  generalize shape : c :: s = text at whole
  cases whole with
  | nil => contradiction
  | plain _ rest =>
    cases shape
    exact rest
  | token kept rest =>
    rw [token_eq, tokenStart_eq] at shape
    exact absurd (List.cons.inj shape).1 differs

theorem drop {front s : List Char} (plain : '%' ∉ front) (whole : store.Intact (front ++ s)) :
    store.Intact s := by
  induction front with
  | nil => exact whole
  | cons c front ih =>
    have differs : c ≠ '%' := fun same => plain (same ▸ List.mem_cons_self)
    exact ih (fun inside => plain (List.mem_cons_of_mem c inside)) (whole.tail differs)

/-- A character that no token holds stands between two tokens. -/
theorem split {c : Char} {front back : List Char} (lettered : store.Lettered)
    (foreign : isTokenChar c = false) (whole : store.Intact (front ++ c :: back)) :
    store.Intact front ∧ store.Intact back := by
  generalize shape : front ++ c :: back = text at whole
  induction whole generalizing front with
  | nil => simp at shape
  | @plain d s differs rest ih =>
    cases front with
    | nil =>
      cases shape
      exact ⟨nil, rest⟩
    | cons e front =>
      obtain ⟨rfl, inner⟩ := List.cons.inj shape
      obtain ⟨first, second⟩ := ih inner
      exact ⟨.plain differs first, second⟩
  | @token place s kept _ ih =>
    rcases List.append_eq_append_iff.mp shape with ⟨more, whole, inner⟩ | ⟨more, rfl, inner⟩
    · -- The token cannot go on behind the front, for then it would hold the character.
      cases more with
      | nil =>
        have alone := token kept nil
        have behind : [] ++ c :: back = s := inner
        rw [whole, List.append_nil, List.append_nil] at alone
        exact ⟨alone, (ih behind).2⟩
      | cons d more =>
        obtain ⟨rfl, -⟩ := List.cons.inj inner
        have inside : c ∈ store.token place := by
          rw [whole]
          exact List.mem_append_right _ List.mem_cons_self
        exact absurd inside (notMem_token lettered foreign place)
    · obtain ⟨first, second⟩ := ih inner.symm
      exact ⟨token kept first, second⟩

/-- Cutting at a mark leaves two intact parts. -/
theorem cut {mark front back : List Char} (lettered : store.Lettered)
    (sharp : isSharp mark = true) (whole : store.Intact (front ++ mark ++ back)) :
    store.Intact front ∧ store.Intact back := by
  cases mark with
  | nil => contradiction
  | cons c mark =>
    obtain ⟨foreign, plain⟩ := isSharp_cons.mp sharp
    rw [List.append_assoc, List.cons_append] at whole
    obtain ⟨first, second⟩ := whole.split lettered foreign
    exact ⟨first, second.drop plain⟩

end Intact

/-! ### Pieces -/

/-- Pieces of intact text with items of a kind between. -/
inductive Cut {α : Type} (store : Store) (kind : α → List Char → Prop) : List (Piece α) → Prop where
  | nil : Cut store kind []
  | text {s : List Char} {pieces : List (Piece α)} (whole : store.Intact s)
      (rest : Cut store kind pieces) : Cut store kind (s.map Piece.plain ++ pieces)
  | found {item : α} {source : List Char} {pieces : List (Piece α)} (known : kind item source)
      (rest : Cut store kind pieces) : Cut store kind (.found item source :: pieces)

/-- A scanner cuts intact text into intact parts if its items begin with a character that no token
holds and are followed by intact text. -/
theorem Intact.pieces {α : Type} {kind : α → List Char → Prop} {scanner : Scanner α} {mark : Char}
    (lettered : store.Lettered) (needs : ∀ c rest, c ≠ mark → scanner.run (c :: rest) = none)
    (foreign : isTokenChar mark = false)
    (leaves : ∀ {front rest : List Char} {item : α}, store.Intact (front ++ rest) →
      scanner.run (front ++ rest) = some (item, rest) → kind item front ∧ store.Intact rest)
    {s : List Char} (whole : store.Intact s) : store.Cut kind (scanner.pieces s) := by
  induction size : s.length using Nat.strongRecOn generalizing s with
  | ind n ih =>
    cases whole with
    | nil =>
      rw [Scanner.pieces_nil]
      exact .nil
    | @plain c s differs rest =>
      cases recognised : scanner.run (c :: s) with
      | none =>
        rw [Scanner.pieces_plain recognised]
        have shorter : s.length < n := size ▸ Nat.lt_succ_self _
        exact .text (.plain differs .nil) (ih s.length shorter rest rfl)
      | some found =>
        obtain ⟨item, after⟩ := found
        obtain ⟨front, shape⟩ := scanner.suffix recognised
        have shorter : after.length < n := size ▸ scanner.shorter recognised
        have whole := Intact.plain differs rest
        rw [shape] at recognised whole ⊢
        obtain ⟨known, inner⟩ := leaves whole recognised
        rw [Scanner.pieces_found recognised]
        exact .found known (ih after.length shorter inner rfl)
    | @token place s kept rest =>
      -- No item begins inside of a token.
      have skips : Skips scanner.run (store.token place) s :=
        Skips.of_not_mem needs (notMem_token lettered foreign place) s
      have shorter : s.length < n := size ▸ length_lt_token store place s
      have alone := Intact.token kept .nil
      rw [List.append_nil] at alone
      rw [Scanner.pieces_skip skips]
      exact .text alone (ih s.length shorter rest rfl)

theorem flatMap_plain {α : Type} (f : Piece α → List Char) (same : ∀ c, f (.plain c) = [c])
    (s : List Char) : (s.map Piece.plain).flatMap f = s := by
  induction s with
  | nil => rfl
  | cons c s ih => rw [List.map_cons, List.flatMap_cons, ih, same, List.singleton_append]

/-- Pieces can be written out again, with intact texts for the items. -/
theorem Cut.flatMap {α : Type} {kind : α → List Char → Prop} {pieces : List (Piece α)}
    (parts : store.Cut kind pieces) {f : Piece α → List Char} (same : ∀ c, f (.plain c) = [c])
    (written : ∀ {item source}, kind item source → store.Intact (f (.found item source))) :
    store.Intact (pieces.flatMap f) := by
  induction parts with
  | nil => exact .nil
  | text whole _ ih =>
    rw [List.flatMap_append, flatMap_plain f same]
    exact whole.append ih
  | found known _ ih => exact (written known).append ih

/-! ### Comments and environment tokens -/

theorem Intact.stripComments {s : List Char} (lettered : store.Lettered) (whole : store.Intact s) :
    store.Intact (Markup.stripComments s) := by
  have parts : store.Cut (fun _ _ => True) (comments.pieces s) := by
    refine whole.pieces lettered comments_steady.needs rfl fun {front rest item} whole found => ?_
    obtain ⟨after, read, same⟩ := Option.map_eq_some_iff.mp found
    cases same
    obtain ⟨body, shape⟩ := commentFront?_suffix read
    rw [shape] at whole
    exact ⟨trivial, (whole.cut lettered rfl).2⟩
  exact parts.flatMap (fun _ => rfl) fun _ => .nil

theorem Intact.replaceFrom {mark new s : List Char} (whole : store.Intact s) (limit : Nat)
    (lettered : store.Lettered) (sharp : isSharp mark = true) (inner : store.Intact new) :
    store.Intact (Text.replaceFrom mark new limit 0 s) := by
  induction size : s.length using Nat.strongRecOn generalizing s limit with
  | ind n ih =>
    cases limit with
    | zero =>
      have same : Text.replaceFrom mark new 0 0 s = s := by cases s <;> rfl
      rw [same]
      exact whole
    | succ limit =>
      cases mark with
      | nil => contradiction
      | cons c mark =>
        obtain ⟨foreign, plain⟩ := isSharp_cons.mp sharp
        cases whole with
        | nil => exact .nil
        | @plain d s differs rest =>
          have shorter : s.length < n := size ▸ Nat.lt_succ_self _
          rw [Text.replaceFrom]
          split
          next starts =>
            -- The mark is skipped as a whole, so the search goes on with what follows it.
            obtain ⟨after, found⟩ := Option.isSome_iff_exists.mp starts
            have shape : d :: s = c :: (mark ++ after) := dropFront?_eq_some_iff.mp found
            obtain ⟨rfl, rfl⟩ := List.cons.inj shape
            rw [List.length_cons, Nat.add_sub_cancel, replaceFrom_skip]
            have less : after.length < n := by
              rw [List.length_append] at shorter
              omega
            exact inner.append (ih after.length less (rest.drop plain) limit rfl)
          next => exact .plain differs (ih s.length shorter rest (limit + 1) rfl)
        | @token place s kept rest =>
          -- The mark does not begin inside of a token either.
          have shorter : s.length < n := size ▸ length_lt_token store place s
          rw [replaceFrom_plain mark new limit (notMem_token lettered foreign place)]
          exact .token kept (ih s.length shorter rest (limit + 1) rfl)

theorem Intact.replaceAll {mark new s : List Char} (whole : store.Intact s)
    (lettered : store.Lettered) (sharp : isSharp mark = true) (inner : store.Intact new) :
    store.Intact (Text.replaceAll mark new s) := by
  have nonempty : mark ≠ [] := by
    rintro rfl
    contradiction
  rw [Text.replaceAll, replaceUpTo, if_neg nonempty]
  exact whole.replaceFrom _ lettered sharp inner

theorem Intact.replaceFirst {mark new s : List Char} (whole : store.Intact s)
    (lettered : store.Lettered) (sharp : isSharp mark = true) (inner : store.Intact new) :
    store.Intact (Text.replaceFirst mark new s) := by
  unfold Text.replaceFirst
  split
  next before after found =>
    rw [cutAt?_eq_append found] at whole
    obtain ⟨first, second⟩ := whole.cut lettered sharp
    exact (first.append inner).append second
  next => exact whole

theorem Intact.substituteEnvironment {env s : List Char} (whole : store.Intact s)
    (lettered : store.Lettered) (plain : '%' ∉ env) :
    store.Intact (Markup.substituteEnvironment env s) := by
  have path : '%' ∉ assetsPath env := by simp [assetsPath, plain]
  have named := whole.replaceAll lettered (by decide : isSharp environmentToken = true)
    (.of_notMem plain)
  exact named.replaceAll lettered (by decide) (.of_notMem path)

/-! ### Taking elements out -/

/-- The sources of the items among pieces. -/
def sources {α : Type} : List (Piece α) → List (List Char)
  | [] => []
  | .plain _ :: pieces => sources pieces
  | .found _ source :: pieces => source :: sources pieces

theorem found_of_mem_sources {α : Type} {pieces : List (Piece α)} {source : List Char}
    (listed : source ∈ sources pieces) : ∃ item, Piece.found item source ∈ pieces := by
  induction pieces with
  | nil => contradiction
  | cons piece pieces ih =>
    cases piece with
    | plain c =>
      obtain ⟨item, inside⟩ := ih listed
      exact ⟨item, List.mem_cons_of_mem _ inside⟩
    | found item other =>
      rcases List.mem_cons.mp listed with rfl | listed
      · exact ⟨item, List.mem_cons_self⟩
      · obtain ⟨item, inside⟩ := ih listed
        exact ⟨item, List.mem_cons_of_mem _ inside⟩

theorem keepPieces_extends (store : Store) (pieces : List (Piece Unit)) :
    Extends store (keepPieces store pieces).2 := by
  induction pieces generalizing store with
  | nil => exact .refl store
  | cons piece pieces ih =>
    cases piece with
    | plain c => exact ih store
    | found item source =>
      have added : Extends store (store.add source) := ⟨rfl, List.prefix_append _ _⟩
      exact added.trans (ih (store.add source))

theorem keepPieces_fragments (store : Store) (pieces : List (Piece Unit)) :
    (keepPieces store pieces).2.fragments = store.fragments ++ sources pieces := by
  induction pieces generalizing store with
  | nil => exact (List.append_nil _).symm
  | cons piece pieces ih =>
    cases piece with
    | plain c => exact ih store
    | found item source =>
      have added := ih (store.add source)
      rw [add, List.append_assoc, List.singleton_append] at added
      exact added

/-- Each element leaves a token of the store that has kept it. -/
theorem keepPieces_intact (store : Store) {pieces : List (Piece Unit)}
    (outside : ∀ c, Piece.plain c ∈ pieces → c ≠ '%') :
    (keepPieces store pieces).2.Intact (keepPieces store pieces).1 := by
  induction pieces generalizing store with
  | nil => exact .nil
  | cons piece pieces ih =>
    have rest (store : Store) := ih store fun c listed => outside c (List.mem_cons_of_mem _ listed)
    cases piece with
    | plain c => exact .plain (outside c List.mem_cons_self) (rest store)
    | found item source =>
      have grown := keepPieces_extends store (.found item source :: pieces)
      have kept : store.size < (keepPieces store (.found item source :: pieces)).2.size := by
        rw [size, size, keepPieces_fragments, List.length_append]
        exact Nat.lt_add_of_pos_right (Nat.succ_pos _)
      have whole := Intact.token kept (rest (store.add source))
      rw [grown.token] at whole
      exact whole

end Store

/-- The verbatim elements of a markup, in order. -/
def verbatimElements (s : List Char) : List (List Char) :=
  Store.sources ((elements verbatimTags).pieces s)

/-- No percent sign stands outside of the verbatim elements of a markup. -/
def PercentInside (s : List Char) : Prop :=
  ∀ c, Piece.plain c ∈ (elements verbatimTags).pieces s → c ≠ '%'

variable {store : Store}

theorem protect_extends (s : List Char) (store : Store) :
    Store.Extends store (protect s store).2 := Store.keepPieces_extends store _

theorem protect_fragments (s : List Char) (store : Store) :
    (protect s store).2.fragments = store.fragments ++ verbatimElements s :=
  Store.keepPieces_fragments store _

theorem protect_intact {s : List Char} (store : Store) (inside : PercentInside s) :
    (protect s store).2.Intact (protect s store).1 := Store.keepPieces_intact store inside

end StaticSite.Markup
