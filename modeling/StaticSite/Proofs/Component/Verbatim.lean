import StaticSite.Proofs.Component.Opacity
import StaticSite.Proofs.Component.Stages
import StaticSite.Proofs.Markup.Restoring

/-!
# Verbatim elements in a whole render

One store is shared by all the components of a render. Each component adds the verbatim elements of
its markup when it is read, after those that are there, and no later step of any component cuts a
token or numbers it anew. So when the root puts the elements back, each token is that of an element
of the store.
-/

namespace StaticSite.Renderer

open StaticSite.Registry StaticSite.Component StaticSite.Markup
open StaticSite.Text hiding interleave

variable {renderer : Renderer} {inv : Store → Prop} {store : Store}

/-! ### Whole renders -/

/-- A property of stores that each visit keeps when it adds its verbatim elements, on the way of a
render in which no percent sign stands outside of them. -/
def Kept (renderer : Renderer) (inv : Store → Prop) (root : Visit × Pass) : Prop :=
  ∀ visit before, Reached renderer root (visit, before) → visit.PercentFree renderer before
    ∧ ∀ raw, inv before.store → visit.Reads renderer raw → inv (protect raw before.store).2

/-- A chain has less room for a component than for the one that led to it. -/
theorem Leads.room_lt {visit other : Visit} {before pass : Pass}
    (leads : Leads renderer (visit, before) (other, pass)) : other.room < visit.room := by
  have room : visit.room ≠ 0 := by
    cases leads with
    | nested refers =>
      obtain ⟨_, _, opens, _⟩ := refers
      exact opens.1
    | base renders =>
      obtain ⟨_, _, ⟨_, _, ⟨_, _, opens, _⟩, _⟩, _⟩ := renders
      exact opens.1
  have shorter : other.room = visit.room - 1 := by cases leads <;> rfl
  omega

theorem reliable_of_kept {visit : Visit} {before : Pass} (plain : '%' ∉ renderer.env)
    (kept : Kept renderer inv (visit, before)) : Reliable renderer inv visit before := by
  induction size : visit.room using Nat.strongRecOn generalizing visit before with
  | ind n ih =>
    intro lettered holds inner text later ended
    obtain ⟨free, adds⟩ := kept visit before .refl
    -- What this visit leads to has less room, and all its visits are among those of this one.
    have reliable : ∀ other pass, Leads renderer (visit, before) (other, pass) →
        Reliable renderer inv other pass := by
      intro other pass leads
      have further : Kept renderer inv (other, pass) := fun visit before reached =>
        kept visit before (.head leads reached)
      exact ih other.room (size ▸ leads.room_lt) further rfl
    have safe : Safe renderer inv visit before :=
      ⟨lettered, holds, inner, free, fun raw => adds raw holds, reliable⟩
    obtain ⟨wrapped, wraps, rfl⟩ := Visit.run_eq_ok ended
    exact safe.substituted plain wraps

/-- Every visit of a render is safe. -/
theorem safe_of_reached {root : Visit × Pass} {visit : Visit} {before : Pass}
    (plain : '%' ∉ renderer.env) (lettered : root.2.store.Lettered) (holds : inv root.2.store)
    (inner : root.2.store.Intact root.1.inner) (kept : Kept renderer inv root)
    (reached : Reached renderer root (visit, before)) : Safe renderer inv visit before := by
  have reliable {other : Visit} {pass : Pass} (reached : Reached renderer root (other, pass)) :
      Reliable renderer inv other pass :=
    reliable_of_kept plain fun visit before further => kept visit before (reached.trans further)
  generalize shape : (visit, before) = last at reached
  induction reached generalizing visit before with
  | refl =>
    subst shape
    obtain ⟨free, adds⟩ := kept visit before .refl
    exact ⟨lettered, holds, inner, free, fun raw => adds raw holds,
      fun other pass leads => reliable (.single leads)⟩
  | @tail middle last reached leads ih =>
    subst shape
    obtain ⟨former, pass⟩ := middle
    -- The visit starts with what the one that led to it had come to.
    have safe := ih rfl
    have left := safe.leads leads
    have here := reached.tail leads
    obtain ⟨free, adds⟩ := kept visit before here
    exact ⟨left.grown.lettered safe.lettered, left.holds, left.whole, free,
      fun raw => adds raw left.holds, fun other pass further => reliable (here.tail further)⟩

/-! ### The order of the elements -/

/-- Each fragment of a store is a verbatim element of markup that a visit of the render has read.
The elements of that markup stand together, after all that the store had before. -/
def Gathered (renderer : Renderer) (root : Visit × Pass) (store : Store) : Prop :=
  ∀ place < store.size, ∃ visit before raw, Reached renderer root (visit, before)
    ∧ visit.Reads renderer raw
    ∧ before.store.fragments ++ verbatimElements raw <+: store.fragments
    ∧ before.store.size ≤ place ∧ place < before.store.size + (verbatimElements raw).length

theorem gathered_empty {root : Visit × Pass} (nonce : List Char) :
    Gathered renderer root (.empty nonce) := fun place kept => absurd kept (Nat.not_lt_zero place)

theorem Gathered.protect {root : Visit × Pass} {visit : Visit} {before : Pass} {raw : List Char}
    (gathered : Gathered renderer root before.store)
    (reached : Reached renderer root (visit, before))
    (reads : visit.Reads renderer raw) :
    Gathered renderer root (Markup.protect raw before.store).2 := by
  have fragments := protect_fragments raw before.store
  intro place kept
  rw [Store.size, fragments, List.length_append] at kept
  by_cases old : place < before.store.size
  · -- The fragments that were there keep their places.
    obtain ⟨other, pass, text, known, read, grown, after, inside⟩ := gathered place old
    refine ⟨other, pass, text, known, read, ?_, after, inside⟩
    rw [fragments]
    exact grown.trans (List.prefix_append _ _)
  · -- The others are the elements of what has just been read.
    refine ⟨visit, before, raw, reached, reads, ?_, Nat.le_of_not_lt old, kept⟩
    rw [fragments]

/-- The fragment at the place of a verbatim element is that element. -/
theorem fragment_mem_verbatimElements {before : Store} {raw : List Char} {place : Nat}
    (grown : before.fragments ++ verbatimElements raw <+: store.fragments)
    (after : before.size ≤ place) (kept : place < before.size + (verbatimElements raw).length)
    (inside : place < store.fragments.length) :
    store.fragments[place] ∈ verbatimElements raw := by
  have here : place < (before.fragments ++ verbatimElements raw).length := by
    rw [List.length_append]
    exact kept
  have same := grown.getElem here
  rw [List.getElem_append_right after] at same
  rw [← same]
  exact List.getElem_mem _

theorem Gathered.ends {root : Visit × Pass} {fragment : List Char}
    (gathered : Gathered renderer root store) (kept : fragment ∈ store.fragments) :
    ∃ body, fragment = body ++ ['>'] := by
  obtain ⟨place, inside, rfl⟩ := List.getElem_of_mem kept
  obtain ⟨visit, before, raw, _, _, grown, after, within⟩ := gathered place inside
  exact verbatimElements_ends (fragment_mem_verbatimElements grown after within inside)

/-! ### Roots -/

/-- The start of a whole render, with a store of its own. -/
def rootVisit (renderer : Renderer) (nonce : List Char) (entry : Entry) (given : Scope)
    (inner : List Char) (session : Session) : Visit × Pass :=
  (⟨renderer.maxDepth.toNat, [], entry, given, inner⟩, ⟨.empty nonce, session⟩)

/-- Verbatim elements survive a whole render. At every stage of every visit, each percent sign of
the markup belongs to the token of a fragment, and the fragments are the elements of the markup that
has been read, in order. So the root puts an element in the place of every token, and not even the
beginning of a token is left. -/
theorem render_verbatim {nonce : List Char} {entry : Entry} {given : Scope} {inner : List Char}
    {session : Session} (lettered : ∀ c ∈ nonce, c.isAlphanum = true) (plain : '%' ∉ renderer.env)
    (around : '%' ∉ inner)
    (free : ∀ visit before,
      Reached renderer (renderer.rootVisit nonce entry given inner session) (visit, before) →
        visit.PercentFree renderer before) :
    (∀ visit before store text,
      Reached renderer (renderer.rootVisit nonce entry given inner session) (visit, before) →
      visit.Works renderer before store text →
        Gathered renderer (renderer.rootVisit nonce entry given inner session) store
          ∧ store.Intact text)
    ∧ ∀ text pass,
      renderer.renderPart entry given inner ⟨.empty nonce, session⟩ = (.ok text, pass) →
        Gathered renderer (renderer.rootVisit nonce entry given inner session) pass.store
          ∧ ∃ result, (renderer.render nonce entry given inner session).1 = .ok result
            ∧ pass.store.Restores text result
            ∧ ((∀ fragment ∈ pass.store.fragments, ¬ nonce <:+: fragment) →
              ¬ pass.store.tokenStart <:+: result) := by
  have kept : Kept renderer
      (Gathered renderer (renderer.rootVisit nonce entry given inner session))
      (renderer.rootVisit nonce entry given inner session) :=
    fun visit before reached =>
      ⟨free visit before reached, fun _ gathered reads => gathered.protect reached reads⟩
  have start : (renderer.rootVisit nonce entry given inner session).2.store.Lettered := lettered
  constructor
  · intro visit before store text reached works
    have safe := safe_of_reached plain start (gathered_empty nonce) (.of_notMem around) kept
      reached
    have left := safe.works plain works
    exact ⟨left.holds, left.whole⟩
  · intro text pass ended
    have left := reliable_of_kept plain kept start (gathered_empty nonce) (.of_notMem around) text
      pass ended
    -- An intact text can be read as one with the fragments in place, and that is what is restored.
    obtain ⟨result, restored⟩ := left.whole.restores
    have rooted : renderer.renderRoot entry given inner ⟨.empty nonce, session⟩
        = (.ok result, pass) := by
      have got : (Action.get : Action Pass Pass) pass = (.ok pass, pass) := rfl
      rw [renderRoot, Action.bind_of_ok ended, Action.bind_of_ok got, restored.restore]
      rfl
    refine ⟨left.holds, result, ?_, restored, fun apart => ?_⟩
    · rw [render, rooted]
    · have same : pass.store.nonce = nonce := left.grown.nonce
      rw [← same] at apart
      exact restored.tokenStart_notInfix (left.grown.lettered lettered)
        (fun fragment listed => left.holds.ends listed) apart

/-! ### A page with a verbatim element -/

variable {visit : Visit} {before opened pass later : Pass} {expanded : List Char} {names : Scope}
  {pieces : List (Piece Reference)}

/-- Of a single reference in a text, nothing else is met. -/
theorem Meets.of_single {follow : Entry → Scope → Action Pass (List Char)} {s source : List Char}
    {item reference : Reference} (meets :
      Meets renderer follow (s.map Piece.plain ++ [.found item source]) pass reference later) :
    reference = item ∧ later = pass := by
  induction s with
  | nil =>
    cases meets with
    | here => exact ⟨rfl, rfl⟩
    | later _ rest => cases rest
  | cons c s ih =>
    cases meets with
    | plain rest => exact ih rest

theorem not_meets_plain {follow : Entry → Scope → Action Pass (List Char)} {s : List Char}
    {reference : Reference} :
    ¬ Meets renderer follow (s.map Piece.plain) pass reference later := by
  intro meets
  induction s with
  | nil => cases meets
  | cons c s ih =>
    cases meets with
    | plain rest => exact ih rest

/-- What is known of a visit up to its template pass. -/
structure Visit.Goes (renderer : Renderer) (visit : Visit) (before : Pass) (names : Scope)
    (pieces : List (Piece Reference)) (opened : Pass) (expanded : List Char) (later : Pass) :
    Prop where
  started : ∃ markup, renderer.start visit.entry visit.given before = (.ok (markup, names), opened)
    ∧ Reference.pieces markup = pure pieces
  replaced : renderer.expand (visit.follow renderer) pieces opened = (.ok expanded, later)

namespace Visit.Goes

theorem refers (goes : visit.Goes renderer before names pieces opened expanded later)
    {scope : Scope} {parts : List (Piece Reference)}
    (refers : visit.Refers renderer before scope parts pass) :
    scope = names ∧ parts = pieces ∧ pass = opened := by
  obtain ⟨markup, started, quiet⟩ := goes.started
  obtain ⟨bare, _, ⟨_, _, again⟩, found⟩ := refers
  cases started.symm.trans again
  rw [quiet, report_pure] at found
  cases found
  exact ⟨rfl, rfl, rfl⟩

theorem expands (goes : visit.Goes renderer before names pieces opened expanded later)
    {scope : Scope} {full : List Char} (expands : visit.Expands renderer before scope full pass) :
    scope = names ∧ full = expanded := by
  obtain ⟨parts, reported, refers, again⟩ := expands
  obtain ⟨rfl, rfl, rfl⟩ := goes.refers refers
  cases goes.replaced.symm.trans again
  exact ⟨rfl, rfl⟩

theorem percentFree (goes : visit.Goes renderer before names pieces opened expanded later)
    {raw resolved : List Char} (read : visit.entry.component.readMarkup renderer.disk = .ok raw)
    (inside : PercentInside raw) (free : Template.PercentFreeScope names)
    (first : (Template.resolveConditionals renderer.evaluate names
      (fillSlot visit.inner expanded)).outcome = .ok resolved)
    (flat : ∀ loop source, Piece.found loop source ∉ Template.loops.pieces resolved) :
    visit.PercentFree renderer before where
  markup text reads := by
    cases read.symm.trans reads.2.2
    exact inside
  scope bare scope pass opens := by
    obtain ⟨markup, started, _⟩ := goes.started
    cases started.symm.trans opens.2.2
    exact free
  results scope full pass expands text again loop source value listed := by
    obtain ⟨rfl, rfl⟩ := goes.expands expands
    cases first.symm.trans again
    exact absurd listed (flat loop source)

end Visit.Goes

/-- A page `<pre>%@[x]</pre>@{Card}`, and a card `@[v]` that shows an `a`. -/
def preRenderer : Renderer :=
  cardRenderer [60, 112, 114, 101, 62, 37, 64, 91, 120, 93, 60, 47, 112, 114, 101, 62, 64, 123, 67,
    97, 114, 100, 125] "a"

def preElement : List Char := "<pre>%@[x]</pre>".toList

def preMarkup : List Char := preElement ++ cardMention.text

def preToken : List Char := "%%VERBATIM_n_0%%".toList

def preKept : Pass := ⟨⟨['n'], [preElement]⟩, .start⟩

/-- The visit that the page leads to. -/
def preCard : Visit := ⟨9, [homeEntry], cardEntry "a", [], []⟩

theorem preHome_elements : (elements verbatimTags).pieces preMarkup
    = .found () preElement :: cardMention.text.map .plain := by cbv

theorem preHome_started : preRenderer.start homeEntry [] ⟨.empty ['n'], .start⟩
    = (.ok (preToken ++ cardMention.text, [(.str "x", .str "boom")]), preKept) := by
  have read : homeEntry.component.readMarkup preRenderer.disk = .ok preMarkup := by cbv
  have kept : protect preMarkup (.empty ['n']) = (preToken ++ cardMention.text, preKept.store) := by
    rw [protect, protectElements, preHome_elements]
    rfl
  have bare : stripComments (preToken ++ cardMention.text) = preToken ++ cardMention.text := by cbv
  have first : preRenderer.readMarkup homeEntry.component ⟨.empty ['n'], .start⟩
      = (.ok (preToken ++ cardMention.text), preKept) := by
    have lifted : (Action.lift (homeEntry.component.readMarkup preRenderer.disk) : Action Pass _)
        ⟨.empty ['n'], .start⟩ = (.ok preMarkup, ⟨.empty ['n'], .start⟩) := by
      rw [read]
      rfl
    have stored : Pass.inStore (protect preMarkup) ⟨.empty ['n'], .start⟩
        = (.ok (preToken ++ cardMention.text), preKept) := by
      rw [Pass.inStore, kept]
      rfl
    rw [readMarkup, Action.bind_of_ok lifted, Action.bind_of_ok stored, bare]
    rfl
  rw [start, Action.bind_of_ok first]
  cbv

theorem preCard_goes : preCard.Goes preRenderer preKept [(.str "v", .str "a")]
    ("@[v]".toList.map Piece.plain) preKept "@[v]".toList preKept where
  started := ⟨"@[v]".toList, by cbv, by cbv⟩
  replaced := by
    rw [expand_text]
    rfl

theorem preCard_run :
    preRenderer.renderOn preRenderer.engine 9 [homeEntry] (cardEntry "a") [] [] preKept
      = (.ok ['a'], preKept) := by cbv

theorem preHome_pieces : Reference.pieces (preToken ++ cardMention.text)
    = pure (preToken.map Piece.plain ++ [.found cardMention.reference cardMention.text]) := by cbv

theorem preHome_goes :
    (preRenderer.rootVisit ['n'] homeEntry [] [] .start).1.Goes preRenderer ⟨.empty ['n'], .start⟩
      [(.str "x", .str "boom")]
      (preToken.map Piece.plain ++ [.found cardMention.reference cardMention.text]) preKept
      (preToken ++ ['a']) preKept where
  started := ⟨preToken ++ cardMention.text, preHome_started, preHome_pieces⟩
  replaced := by
    have known : preRenderer.registry.find? (String.ofList cardMention.name)
      = some (cardEntry "a") := by cbv
    have follow : (preRenderer.rootVisit ['n'] homeEntry [] [] .start).1.follow preRenderer
        (cardEntry "a") cardMention.reference.data preKept = (.ok ['a'], preKept) := preCard_run
    exact expand_reference known follow preToken [] cardMention.text

theorem preHome_percentFree :
    (preRenderer.rootVisit ['n'] homeEntry [] [] .start).1.PercentFree preRenderer
      ⟨.empty ['n'], .start⟩ := by
  have read : homeEntry.component.readMarkup preRenderer.disk = .ok preMarkup := by cbv
  have first : (Template.resolveConditionals Expression.evaluate [(.str "x", .str "boom")]
      (preToken ++ ['a'])).outcome = .ok (preToken ++ ['a']) := by cbv
  have flat : Template.loops.pieces (preToken ++ ['a'])
      = (preToken ++ ['a']).map Piece.plain := by cbv
  refine preHome_goes.percentFree read ?_ ?_ first ?_
  · intro c listed
    rw [preHome_elements] at listed
    have inside : c ∈ cardMention.text := by simpa using listed
    exact fun same => absurd (same ▸ inside) (by decide : '%' ∉ cardMention.text)
  · have value : (Value.str "boom").PercentFree := by
      rw [Value.PercentFree]
      decide
    simpa [Template.PercentFreeScope] using value
  · simp [flat]

theorem preCard_percentFree : preCard.PercentFree preRenderer preKept := by
  have read : preCard.entry.component.readMarkup preRenderer.disk = .ok "@[v]".toList := by cbv
  have first : (Template.resolveConditionals Expression.evaluate [(.str "v", .str "a")]
      "@[v]".toList).outcome = .ok "@[v]".toList := by cbv
  have plain : (elements verbatimTags).pieces "@[v]".toList = "@[v]".toList.map .plain := by cbv
  have flat : Template.loops.pieces "@[v]".toList = "@[v]".toList.map .plain := by cbv
  refine preCard_goes.percentFree read ?_ ?_ first ?_
  · intro c listed
    rw [plain] at listed
    have inside : c ∈ "@[v]".toList := by simpa using listed
    exact fun same => absurd (same ▸ inside) (by decide : '%' ∉ "@[v]".toList)
  · have value : (Value.str "a").PercentFree := by
      rw [Value.PercentFree]
      decide
    simpa [Template.PercentFreeScope] using value
  · intro loop source
    rw [flat]
    simp

/-- The page leads to the card that its only reference names, and to nothing else. -/
theorem preReached_cases {reached : Visit × Pass}
    (leads : Reached preRenderer (preRenderer.rootVisit ['n'] homeEntry [] [] .start) reached) :
    reached = preRenderer.rootVisit ['n'] homeEntry [] [] .start
      ∨ reached = (preCard, preKept) := by
  have known : preRenderer.registry.find? (String.ofList cardMention.name)
      = some (cardEntry "a") := by cbv
  have topmost : homeEntry.component.base? = none ∧ (cardEntry "a").component.base? = none :=
    ⟨by cbv, by cbv⟩
  induction leads with
  | refl => exact .inl rfl
  | tail _ leads ih =>
    rcases ih with rfl | rfl
    · -- The page has no base.
      cases leads with
      | nested refers meets found =>
        obtain ⟨rfl, rfl, rfl⟩ := preHome_goes.refers refers
        obtain ⟨rfl, rfl⟩ := meets.of_single
        cases known.symm.trans found
        exact .inr rfl
      | base _ named => cases topmost.1.symm.trans named
    · -- The card leads nowhere.
      cases leads with
      | nested refers meets =>
        obtain ⟨rfl, rfl, rfl⟩ := preCard_goes.refers refers
        exact absurd meets not_meets_plain
      | base _ named => cases topmost.2.symm.trans named

theorem percentFree_of_preReached {visit : Visit} {before : Pass}
    (reached : Reached preRenderer (preRenderer.rootVisit ['n'] homeEntry [] [] .start)
      (visit, before)) : visit.PercentFree preRenderer before := by
  rcases preReached_cases reached with same | same
  · cases same
    exact preHome_percentFree
  · cases same
    exact preCard_percentFree

theorem preHome_run : preRenderer.renderPart homeEntry [] [] ⟨.empty ['n'], .start⟩
    = (.ok (preToken ++ ['a']), preKept) := by
  have rendered : preRenderer.engine [(.str "x", .str "boom")] (fillSlot [] (preToken ++ ['a']))
      = pure (preToken ++ ['a']) := by cbv
  have ran := report_pure (preToken ++ ['a']) preKept
  rw [← rendered] at ran
  have replaced : preRenderer.expand (fun nested data =>
      preRenderer.renderOn preRenderer.engine 9 ([] ++ [homeEntry]) nested data [])
      (preToken.map Piece.plain ++ [.found cardMention.reference cardMention.text]) preKept
      = (.ok (preToken ++ ['a']), preKept) := preHome_goes.replaced
  show preRenderer.renderOn preRenderer.engine 10 [] homeEntry [] [] ⟨.empty ['n'], .start⟩ = _
  rw [renderOn_eq rfl, Action.bind_of_ok preHome_started, finish, preHome_pieces,
    Action.bind_of_ok (report_pure _ preKept), Action.bind_of_ok replaced, Action.bind_of_ok ran]
  cbv

/-- The page keeps its element, and the reference behind it is replaced. -/
theorem render_verbatim_pre :
    preRenderer.renderPart homeEntry [] [] ⟨.empty ['n'], .start⟩
        = (.ok (preToken ++ ['a']), preKept)
      ∧ (preRenderer.render ['n'] homeEntry [] [] .start).1 = .ok (preElement ++ ['a'])
      ∧ preKept.store.Restores (preToken ++ ['a']) (preElement ++ ['a'])
      ∧ ¬ preKept.store.tokenStart <:+: preElement ++ ['a'] := by
  have lettered : ∀ c ∈ ['n'], c.isAlphanum = true := List.all_eq_true.mp rfl
  have env : '%' ∉ preRenderer.env := by decide
  have free : ∀ visit before,
      Reached preRenderer (preRenderer.rootVisit ['n'] homeEntry [] [] .start) (visit, before) →
        visit.PercentFree preRenderer before := fun _ _ reached => percentFree_of_preReached reached
  have apart : ∀ fragment ∈ preKept.store.fragments, ¬ ['n'] <:+: fragment := by decide
  obtain ⟨_, result, whole, restored, absent⟩ :=
    (render_verbatim lettered env List.not_mem_nil free).2 _ _ preHome_run
  -- What is restored is the element, since it stands at the place of the token.
  have token : preKept.store.token 0 = preToken := rfl
  have kept : preKept.store.fragments[0]? = some preElement := rfl
  have page : preKept.store.Restores (preKept.store.token 0 ++ ['a']) (preElement ++ ['a']) :=
    .token kept (.plain (by decide) .nil)
  rw [token] at page
  have same : result = preElement ++ ['a'] :=
    Except.ok.inj (restored.restore.symm.trans page.restore)
  subst same
  exact ⟨preHome_run, whole, restored, absent apart⟩

end StaticSite.Renderer
