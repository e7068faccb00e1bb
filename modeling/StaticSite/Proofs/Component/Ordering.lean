import StaticSite.Proofs.Component.Listing

/-!
# The order of a registry

The markup files below a root are found in the order of a walk: those of a folder by name, then
those of its sub-folders, sub-folder by sub-folder. `Before` is this order on the locations of files
below the root. A registry has the files of the roots one after the other, each once, and a name
stands for its earliest component.
-/

namespace StaticSite

open StaticSite.Text

theorem Path.append_ofSegments (path : Path) (segments : List String) :
    path ++ Path.ofSegments segments = ⟨path.slashes, path.segments ++ segments⟩ := rfl

namespace Node

/-- One location comes before another one: files of a folder by name, before everything in its
sub-folders; what is in two sub-folders by the names of these. -/
inductive Before : Location → Location → Prop where
  | file {name other : String} (less : name < other) : Before [name] [other]
  | folder (name other next : String) (rest : Location) : Before [name] (other :: next :: rest)
  | names {name other : String} (less : name < other) (next after : String)
      (rest behind : Location) : Before (name :: next :: rest) (other :: after :: behind)
  | deeper {name : String} {place other : Location} (inner : Before place other) :
      Before (name :: place) (name :: other)

/-- A markup file stands at a location. -/
def IsMarkupAt (tree : Node) (spot : Location) : Prop :=
  ∃ folder stem bytes, stem ≠ "" ∧ spot = folder ++ [stem ++ ".html"]
    ∧ tree.at? spot = some (.file bytes)

namespace Before

theorem irrefl (place : Location) : ¬ Before place place := by
  induction place with
  | nil => exact nofun
  | cons name place ih =>
    intro before
    cases before with
    | file less => exact lt_irrefl _ less
    | names less => exact lt_irrefl _ less
    | deeper inner => exact ih inner

end Before

theorem Every.at? {holds : Entries → Prop} {tree node : Node} {place : Location}
    (every : tree.Every holds) (found : tree.at? place = some node) : node.Every holds := by
  induction place generalizing tree with
  | nil =>
    cases found
    exact every
  | cons name place ih =>
    obtain ⟨entries, inner, rfl, listed, below⟩ := at?_cons_eq_some.mp found
    exact ih (Component.everyOf_iff.mp every.2 _ (mem_of_lookup listed)) below

theorem Every.isName_of_at? {tree node : Node} {place : Location} (named : tree.Every Named)
    (found : tree.at? place = some node) : ∀ name ∈ place, Path.IsName name := by
  induction place generalizing tree with
  | nil => exact nofun
  | cons name place ih =>
    obtain ⟨entries, inner, rfl, listed, below⟩ := at?_cons_eq_some.mp found
    have here := mem_of_lookup listed
    exact List.forall_mem_cons.mpr
      ⟨named.1 _ here, ih (Component.everyOf_iff.mp named.2 _ here) below⟩

theorem isMarkupAt_nonempty {tree : Node} {spot : Location} (markup : tree.IsMarkupAt spot) :
    spot ≠ [] := by
  obtain ⟨folder, stem, bytes, -, rfl, -⟩ := markup
  exact List.append_ne_nil_of_right_ne_nil _ (List.cons_ne_nil _ _)

end Node

/-- Neither of two paths leads into the place of the other. -/
def Disk.Separate (disk : Disk) (first second : Path) : Prop :=
  ¬ disk.place first <+: disk.place second ∧ ¬ disk.place second <+: disk.place first

namespace Component

open Node

/-- A component is that of the markup file at a location of a tree, which is found from one path
and has its pages below another one. -/
inductive StandsAt (way below : Path) (tree : Node) : Location → Component → Prop where
  | intro {folder : Location} {stem : String} {entries : Entries} {bytes : List UInt8}
      {component : Component} (nonempty : stem ≠ "")
      (found : tree.at? folder = some (.folder entries))
      (stands : entries.lookup (stem ++ ".html") = some (.file bytes))
      (isOf : IsOf (way ++ Path.ofSegments folder) entries stem component)
      (page : component.outputPath = below ++ Path.ofSegments
        (folder ++ (if stem = "index" ∨ stem = "." then [] else [stem]) ++ ["index.html"])) :
      StandsAt way below tree (folder ++ [stem ++ ".html"]) component

/-- Components are those of the markup files of a tree, each once and in order. -/
structure Follows (way below : Path) (tree : Node) (spots : List Location)
    (components : List Component) : Prop where
  ordered : spots.Pairwise Before
  complete : ∀ spot, spot ∈ spots ↔ tree.IsMarkupAt spot
  each : List.Forall₂ (StandsAt way below tree) spots components

theorem StandsAt.deeper {way below : Path} {entries : Entries} {name : String} {inner : Node}
    {spot : Location} {component : Component} (single : Path.IsName name)
    (listed : entries.lookup name = some inner)
    (stands : StandsAt (way.child name) (below.child name) inner spot component) :
    StandsAt way below (.folder entries) (name :: spot) component := by
  obtain ⟨nonempty, found, file, isOf, page⟩ := stands
  next folder stem there bytes =>
    rw [Builder.child_of_isName single] at isOf page
    have lower (path : Path) (place : Location) :
        (⟨path.slashes, path.segments ++ [name]⟩ : Path) ++ Path.ofSegments place
          = path ++ Path.ofSegments (name :: place) := by
      simp only [Path.append_ofSegments, List.append_assoc, List.singleton_append]
    rw [lower] at isOf page
    have reached : (Node.folder entries).at? (name :: folder) = some (.folder there) :=
      at?_cons_eq_some.mpr ⟨entries, inner, rfl, listed, found⟩
    show StandsAt way below _ (name :: folder ++ [stem ++ ".html"]) _
    exact .intro nonempty reached file isOf page

theorem follows_file (way below : Path) (bytes : List UInt8) :
    Follows way below (.file bytes) [] [] where
  ordered := .nil
  complete spot := by
    refine ⟨fun listed => absurd listed List.not_mem_nil, fun markup => ?_⟩
    obtain ⟨folder, stem, bytes, -, rfl, found⟩ := markup
    cases folder <;> contradiction
  each := .nil

/-- The files of a folder itself. -/
theorem follows_inFolder {way below : Path} {entries : Entries} {own : List Component}
    (names : (entries.map Prod.fst).Nodup) (named : Named entries)
    (found : (inFolder way below entries).outcome = .ok own) :
    List.Forall₂ (StandsAt way below (.folder entries)) ((markupNames entries).map fun file => [file])
      own := by
  rw [inFolder_eq, Reported.mapM_ok_iff] at found
  rw [List.forall₂_map_left_iff]
  refine ((List.forall₂_and_left _ _).mpr ⟨fun file listed => listed, found⟩).imp ?_
  rintro file component ⟨listed, made⟩
  obtain ⟨stem, bytes, nonempty, rfl, stands⟩ := (mem_markupNames names).mp listed
  have whole := (named _ (mem_of_lookup stands)).whole
  rw [String.toList_append, List.mem_append, not_or] at whole
  have page := ofFile_outputPath nonempty whole.1 made
  rw [pageFolder_html nonempty whole.1] at page
  show StandsAt way below _ ([] ++ [stem ++ ".html"]) _
  refine .intro nonempty rfl stands ?_ ?_
  · have isOf := ofFile_isOf nonempty made
    rwa [Path.append_ofSegments, List.append_nil]
  · rw [page, Path.append_ofSegments, pageIn, List.nil_append, List.append_assoc]
    rfl

theorem isMarkupAt_folder {entries : Entries} (names : (entries.map Prod.fst).Nodup)
    {spot : Location} : (Node.folder entries).IsMarkupAt spot ↔
      (∃ file ∈ markupNames entries, [file] = spot) ∨
        ∃ name inner place, entries.lookup name = some inner ∧ inner.IsMarkupAt place ∧
          name :: place = spot := by
  simp only [mem_markupNames names]
  constructor
  · rintro ⟨folder, stem, bytes, nonempty, rfl, found⟩
    cases folder with
    | nil =>
      obtain ⟨_, inner, same, listed, here⟩ := at?_cons_eq_some.mp found
      cases same
      cases here
      exact .inl ⟨_, ⟨stem, bytes, nonempty, rfl, listed⟩, rfl⟩
    | cons name folder =>
      obtain ⟨_, inner, same, listed, below⟩ := at?_cons_eq_some.mp found
      cases same
      exact .inr ⟨name, inner, _, listed, ⟨folder, stem, bytes, nonempty, rfl, below⟩, rfl⟩
  · rintro (⟨_, ⟨stem, bytes, nonempty, rfl, found⟩, rfl⟩ | ⟨name, inner, _, listed,
      ⟨folder, stem, bytes, nonempty, rfl, found⟩, rfl⟩)
    · exact ⟨[], stem, bytes, nonempty, rfl, at?_cons_eq_some.mpr ⟨_, _, rfl, found, rfl⟩⟩
    · exact ⟨name :: folder, stem, bytes, nonempty, rfl,
        at?_cons_eq_some.mpr ⟨_, inner, rfl, listed, found⟩⟩

/-- The files below a folder, sub-folder by sub-folder. -/
theorem follows_each {way below : Path} {entries items : Entries} {each : List (List Component)}
    (sorted : items.Pairwise fun first second => first.1 < second.1)
    (within : ∀ item ∈ items, Path.IsName item.1 ∧ entries.lookup item.1 = some item.2)
    (found : List.Forall₂ (fun item part => ∃ spots,
      Follows (way.child item.1) (below.child item.1) item.2 spots part) items each) :
    ∃ spots : List Location, spots.Pairwise Before ∧
      (∀ spot, spot ∈ spots ↔ ∃ item ∈ items, ∃ place, item.2.IsMarkupAt place ∧
        item.1 :: place = spot) ∧
      List.Forall₂ (StandsAt way below (.folder entries)) spots each.flatten := by
  -- The sub-folders come in the order of their names, each with all of its files.
  induction found with
  | nil => exact ⟨[], .nil, by simp, .nil⟩
  | @cons item part items each first _ ih =>
    obtain ⟨before, sorted⟩ := List.pairwise_cons.mp sorted
    obtain ⟨⟨single, listed⟩, within⟩ := List.forall_mem_cons.mp within
    obtain ⟨spots, follows⟩ := first
    obtain ⟨others, ordered, complete, stand⟩ := ih sorted within
    refine ⟨spots.map (item.1 :: ·) ++ others, ?_, fun spot => ?_, ?_⟩
    · rw [List.pairwise_append, List.pairwise_map]
      refine ⟨follows.ordered.imp .deeper, ordered, fun spot here other there => ?_⟩
      obtain ⟨place, inside, rfl⟩ := List.mem_map.mp here
      obtain ⟨next, behind, place', markup, rfl⟩ := (complete other).mp there
      obtain ⟨a, rest, rfl⟩ := List.exists_cons_of_ne_nil
        (isMarkupAt_nonempty ((follows.complete place).mp inside))
      obtain ⟨b, more, rfl⟩ := List.exists_cons_of_ne_nil (isMarkupAt_nonempty markup)
      exact .names (before next behind) a b rest more
    · simp only [List.mem_append, List.mem_map, complete, follows.complete, List.mem_cons,
        exists_eq_or_imp]
    · exact List.rel_append (List.forall₂_map_left_iff.mpr
        (follows.each.imp fun _ _ stands => stands.deeper single listed)) stand

/-- The files of a folder, and behind them those below it. -/
theorem follows_folder {way below : Path} {entries : Entries} {own : List Component}
    {each : List (List Component)} (named : Named entries) (names : (entries.map Prod.fst).Nodup)
    (first : (inFolder way below entries).outcome = .ok own)
    (inner : List.Forall₂ (fun item part => ∃ spots,
      Follows (way.child item.1) (below.child item.1) item.2 spots part) (byName entries) each) :
    ∃ spots, Follows way below (.folder entries) spots (own ++ each.flatten) := by
  have within : ∀ entry ∈ byName entries,
      Path.IsName entry.1 ∧ entries.lookup entry.1 = some entry.2 := by
    intro entry inside
    have listed := (byName_perm entries).mem_iff.mp inside
    exact ⟨named entry listed, lookup_of_mem names listed⟩
  obtain ⟨spots, ordered, complete, stand⟩ := follows_each (byName_strict names) within inner
  refine ⟨(markupNames entries).map (fun file => [file]) ++ spots, ?_, fun spot => ?_, ?_⟩
  · rw [List.pairwise_append, List.pairwise_map]
    refine ⟨(markupNames_strict names).imp .file, ordered, fun spot here other there => ?_⟩
    -- What is found below a folder stands in a sub-folder, even a file of a smaller name.
    obtain ⟨file, -, rfl⟩ := List.mem_map.mp here
    obtain ⟨entry, -, place, markup, rfl⟩ := (complete other).mp there
    obtain ⟨next, rest, rfl⟩ := List.exists_cons_of_ne_nil (isMarkupAt_nonempty markup)
    exact .folder file entry.1 next rest
  · rw [List.mem_append, List.mem_map, complete, isMarkupAt_folder names]
    refine or_congr_right ⟨?_, ?_⟩
    · rintro ⟨entry, inside, place, markup, rfl⟩
      exact ⟨entry.1, entry.2, place, (within entry inside).2, markup, rfl⟩
    · rintro ⟨name, node, place, found, markup, rfl⟩
      have inside := (byName_perm entries).mem_iff.mpr (mem_of_lookup found)
      exact ⟨(name, node), inside, place, markup, rfl⟩
  · exact List.rel_append (follows_inFolder names named first) stand

/-- What is found in a tree is in order. -/
theorem discoverAt_follows (node : Node) : ∀ {way below : Path} {components : List Component},
    node.Every Named → node.Distinct → (discoverAt way below node).outcome = .ok components →
    ∃ spots, Follows way below node spots components := by
  induction node using Node.induction with
  | file bytes =>
    intro way below components _ _ found
    rw [discoverAt] at found
    cases found
    exact ⟨[], follows_file way below bytes⟩
  | folder entries ih =>
    intro way below components named distinct found
    rw [discoverAt] at found
    obtain ⟨own, first, second⟩ := Reported.bind_eq_ok found
    obtain ⟨others, joined, last⟩ := Reported.bind_eq_ok second
    cases last
    obtain ⟨each, parts, last⟩ := Reported.bind_eq_ok joined
    cases last
    -- The results of the sub-folders are joined in the order of the sub-folders' names.
    rw [discoverEach_eq, byName_map, Reported.mapM_ok_iff, List.forall₂_map_left_iff] at parts
    refine follows_folder named.1 distinct.1 first ?_
    have listed : ∀ entry ∈ byName entries, entry ∈ entries := fun entry =>
      (byName_perm entries).mem_iff.mp
    refine ((List.forall₂_and_left _ _).mpr ⟨listed, parts⟩).imp ?_
    rintro entry part ⟨here, found⟩
    have inner := distinctEach_iff.mp distinct.2 entry here
    exact ih entry here (everyOf_iff.mp named.2 entry here) inner found

/-! ### Roots -/

/-- What the search of a root gives: nothing if there is nothing at the root, else the components of
its tree. -/
inductive Found (disk : Disk) (root : Path) : List Component → Prop where
  | missing (absent : disk.node? root = none) : Found disk root []
  | tree {tree : Node} {spots : List Location} {components : List Component}
      (read : disk.node? root = some tree) (follows : Follows root .here tree spots components) :
      Found disk root components

/-- Components are those of some roots, root by root. -/
def Discovered (disk : Disk) (roots : List Path) (components : List Component) : Prop :=
  ∃ parts, List.Forall₂ (Found disk) roots parts ∧ components = parts.flatten

section

variable {disk : Disk} (named : disk.root.Every Named)

include named in
theorem discoverRoot_found (distinct : disk.root.Distinct) {root : Path}
    {components : List Component} (found : (discoverRoot disk root).outcome = .ok components) :
    Found disk root components := by
  unfold discoverRoot at found
  cases read : disk.node? root with
  | none =>
    rw [read] at found
    cases found
    exact .missing read
  | some tree =>
    have stands := (Disk.node?_eq_some.mp read).2
    rw [read] at found
    cases tree with
    | file bytes =>
      cases found
      exact .tree read (follows_file root .here bytes)
    | folder entries =>
      obtain ⟨spots, follows⟩ := discoverAt_follows _ (named.at? stands) (distinct.at? stands) found
      exact .tree read follows

include named in
theorem StandsAt.place {root below : Path} {tree : Node} {spot : Location} {component : Component}
    (read : disk.node? root = some tree) (stands : StandsAt root below tree spot component) :
    disk.place component.entryPath = disk.place root ++ spot := by
  have within := named.at? (Disk.node?_eq_some.mp read).2
  obtain ⟨nonempty, found, file, isOf, -⟩ := stands
  next folder stem entries bytes =>
    have single : Path.IsName (stem ++ ".html") := (within.at? found).1 _ (mem_of_lookup file)
    have inner : (Path.ofSegments folder).IsInner :=
      ⟨rfl, fun above => (within.isName_of_at? found _ above).inside rfl⟩
    rw [entryPath, isOf.folder_eq, isOf.file_eq, Builder.place_child single, Disk.place_append inner,
      List.append_assoc]
    rfl

include named in
/-- The files of a root are different ones. -/
theorem Found.places {root : Path} {components : List Component}
    (found : Found disk root components) : ∃ spots : List Location, spots.Nodup ∧
      components.map (fun component => disk.place component.entryPath)
        = spots.map (disk.place root ++ ·) := by
  cases found with
  | missing => exact ⟨[], .nil, rfl⟩
  | @tree tree spots _ read follows =>
    have differ : spots.Nodup := by
      refine follows.ordered.imp fun before => ?_
      rintro rfl
      exact Before.irrefl _ before
    refine ⟨spots, differ, ?_⟩
    have each := follows.each.imp fun _ _ stands => stands.place named read
    rw [← List.forall₂_eq_eq_eq, List.forall₂_map_left_iff, List.forall₂_map_right_iff]
    exact each.flip

include named in
/-- What two roots give are different files, if neither lies in the other. -/
theorem nodup_places {roots : List Path} {parts : List (List Component)}
    (separate : roots.Pairwise disk.Separate) (found : List.Forall₂ (Found disk) roots parts) :
    (parts.flatten.map fun component => disk.place component.entryPath).Nodup ∧
      ∀ place ∈ parts.flatten.map fun component => disk.place component.entryPath,
        ∃ root ∈ roots, disk.place root <+: place := by
  induction found with
  | nil => exact ⟨.nil, nofun⟩
  | @cons root part roots parts first _ ih =>
    obtain ⟨apart, separate⟩ := List.pairwise_cons.mp separate
    obtain ⟨differ, below⟩ := ih separate
    obtain ⟨spots, nodup, places⟩ := first.places named
    rw [List.flatten_cons, List.map_append, places]
    refine ⟨List.nodup_append'.mpr ⟨?_, differ, ?_⟩, fun place listed => ?_⟩
    · exact nodup.map fun first second same => (List.append_right_inj _).mp same
    · intro place here there
      obtain ⟨spot, -, rfl⟩ := List.mem_map.mp here
      obtain ⟨other, listed, inside⟩ := below _ there
      -- One of two places that lead to one file lies in the other.
      rcases List.prefix_or_prefix_of_prefix (List.prefix_append _ spot) inside with lower | upper
      · exact (apart other listed).1 lower
      · exact (apart other listed).2 upper
    · rcases List.mem_append.mp listed with here | there
      · obtain ⟨spot, -, rfl⟩ := List.mem_map.mp here
        exact ⟨root, List.mem_cons_self, List.prefix_append _ spot⟩
      · obtain ⟨other, listed, inside⟩ := below _ there
        exact ⟨other, List.mem_cons_of_mem _ listed, inside⟩

end

end Component

namespace Registry

open Component Node

/-! ### Names -/

/-- An entry is the earliest one of a name. -/
structure Earliest (registry : Registry) (name : String) (entry : Entry) : Prop where
  listed : registry.components[entry.place]? = some entry.component
  named : entry.component.name = name
  first : ∀ place < entry.place, ∀ component, registry.components[place]? = some component →
    component.name ≠ name

theorem find?_eq_some_iff {registry : Registry} {name : String} {entry : Entry} :
    registry.find? name = some entry ↔ registry.Earliest name entry := by
  unfold find?
  rw [List.find?_eq_some_iff_getElem]
  simp only [entries, List.length_mapIdx, List.getElem_mapIdx, decide_eq_true_eq,
    Bool.not_eq_true', decide_eq_false_iff_not]
  constructor
  · rintro ⟨named, place, inside, rfl, first⟩
    refine ⟨List.getElem?_eq_getElem inside, named, fun before earlier component there => ?_⟩
    obtain ⟨_, rfl⟩ := List.getElem?_eq_some_iff.mp there
    exact first before earlier
  · rintro ⟨listed, named, first⟩
    obtain ⟨inside, same⟩ := List.getElem?_eq_some_iff.mp listed
    refine ⟨named, entry.place, inside, by rw [same], fun before earlier => ?_⟩
    exact first before earlier _ (List.getElem?_eq_getElem (earlier.trans inside))

/-- A component hides those of its name that come later. -/
theorem find?_of_mem {registry : Registry} {own others : List Component}
    (whole : registry.components = own ++ others) : ∀ component ∈ own,
      ∃ entry, registry.find? component.name = some entry ∧ entry.place < own.length := by
  intro component listed
  obtain ⟨place, inside, here⟩ := List.mem_iff_getElem.mp listed
  have there : registry.components[place]? = some component := by
    rw [whole, List.getElem?_append_left inside, List.getElem?_eq_getElem inside, here]
  have some : (registry.find? component.name).isSome = true := by
    obtain ⟨bound, same⟩ := List.getElem?_eq_some_iff.mp there
    rw [find?, List.find?_isSome]
    exact ⟨⟨place, component⟩, List.mem_mapIdx.mpr ⟨place, bound, by rw [same]⟩, by simp⟩
  obtain ⟨entry, found⟩ := Option.isSome_iff_exists.mp some
  refine ⟨entry, found, ?_⟩
  by_contra late
  have earlier : place < entry.place := by omega
  exact (find?_eq_some_iff.mp found).first place earlier component there rfl

/-- The search ends with a registry exactly if no configuration beside a markup file is undecodable
or has an integer that is too long, and it does not depend on the order in which folders are listed.
The registry has one component for each markup file at or below a root: the roots in the given
order, the files of a folder by name, before its sub-folders by name. Each component has what its
place determines. No file is found twice if no root lies in another one. A name stands for its
earliest component, so one of an earlier root hides those of later roots. -/
theorem discover_in_order (disk : Disk) (roots : List Path) (distinct : disk.root.Distinct)
    (named : disk.root.Every Named) :
    ((∃ registry, (discover disk roots).outcome = .ok registry) ↔
      ∀ folder entries, Searched disk roots folder entries → HasMarkups entries →
        ¬ Stops entries) ∧
    (∀ other, disk.root.Relisted other →
      discover ⟨other, disk.here⟩ roots = discover disk roots) ∧
    ∀ registry, (discover disk roots).outcome = .ok registry →
      Discovered disk roots registry.components ∧
      (roots.Pairwise disk.Separate →
        (registry.components.map fun component => disk.place component.entryPath).Nodup) ∧
      (∀ name entry, registry.find? name = some entry ↔ registry.Earliest name entry) ∧
      ∀ project shipped, roots = project ++ shipped → ∃ own bases,
        registry.components = own ++ bases ∧ Discovered disk project own ∧
        Discovered disk shipped bases ∧ ∀ component ∈ own,
          ∃ entry, registry.find? component.name = some entry ∧ entry.place < own.length := by
  refine ⟨discover_succeeds_iff, fun other relisted => ?_, fun registry found => ?_⟩
  · obtain ⟨same, kept⟩ := relisted.look distinct
    have root : (⟨other, disk.here⟩ : Disk).root.Distinct := kept
    exact discover_congr distinct root rfl same roots
  · obtain ⟨parts, each, last⟩ := Reported.bind_eq_ok found
    cases last
    -- Each root gives its own components, and the registry is all of them in a row.
    have related : List.Forall₂ (Found disk) roots parts :=
      (Reported.mapM_ok_iff.mp each).imp fun _ _ => discoverRoot_found named distinct
    refine ⟨⟨parts, related, rfl⟩, fun separate => (nodup_places named separate related).1,
      fun _ _ => find?_eq_some_iff, fun project shipped split => ?_⟩
    rw [split] at related
    obtain ⟨front, back, first, second, rfl⟩ := forall₂_append related
    have whole : (front ++ back).flatten = front.flatten ++ back.flatten := List.flatten_append
    exact ⟨front.flatten, back.flatten, whole, ⟨front, first, rfl⟩, ⟨back, second, rfl⟩,
      find?_of_mem whole⟩

/-- A root with given entries, and one with a component `A`. -/
def shadowingDisk (project : Entries) : Disk :=
  ⟨.folder [("p", .folder project),
    ("s", .folder [("A", .folder [("index.html", .file [120])])])], []⟩

def shadowingProject : Entries :=
  [("A", .folder [("index.html", .file [121])]), ("B.html", .file [122])]

/-- The file comes before the sub-folder, though its name is greater, and the component in the
sub-folder hides that of the second root. The folder may be listed backwards. -/
theorem discover_in_order_shadowing :
    let disk := shadowingDisk shadowingProject
    let roots : List Path := [⟨0, ["p"]⟩, ⟨0, ["s"]⟩]
    discover (shadowingDisk shadowingProject.reverse) roots = discover disk roots ∧
      ∃ registry, (discover disk roots).outcome = .ok registry ∧
        registry.names = ["B", "A", "A"] ∧ Discovered disk roots registry.components ∧
        (registry.components.map fun component => disk.place component.entryPath).Nodup ∧
        ∃ entry, registry.find? "A" = some entry ∧ entry.place = 1 := by
  intro disk roots
  have distinct : disk.root.Distinct := by
    simp [disk, shadowingDisk, shadowingProject, Node.Distinct, Node.DistinctEach]
  have isName {name : String} (plain : name ∈ ["p", "s", "A", "index.html", "B.html"]) :
      Path.IsName name := by
    fin_cases plain <;> exact ⟨by decide, by decide, by decide, by decide⟩
  have named : disk.root.Every Named := by
    simp [disk, shadowingDisk, shadowingProject, Every, EveryOf, Named, isName]
  have backwards : disk.root.Relisted (shadowingDisk shadowingProject.reverse).root :=
    .entry [] _ _ (.swap shadowingProject.reverse_perm.symm)
  have separate : roots.Pairwise disk.Separate := by
    simp only [roots, List.pairwise_pair]
    exact ⟨by decide, by decide⟩
  obtain ⟨-, relisted, ordered⟩ := discover_in_order disk roots distinct named
  have names : ((discover disk roots).outcome.map Registry.names).toOption
      = some ["B", "A", "A"] := by cbv
  refine ⟨relisted _ backwards, ?_⟩
  cases found : (discover disk roots).outcome with
  | error fault =>
    rw [found] at names
    cases names
  | ok registry =>
    rw [found] at names
    have listed : registry.components.map Component.name = ["B", "A", "A"] :=
      Option.some.inj names
    obtain ⟨discovered, nodup, earliest, -⟩ := ordered registry found
    refine ⟨registry, rfl, listed, discovered, nodup separate, ?_⟩
    obtain ⟨first, rest, whole, other, later⟩ := List.map_eq_cons_iff.mp listed
    obtain ⟨second, more, rfl, same, -⟩ := List.map_eq_cons_iff.mp later
    refine ⟨⟨1, second⟩, (earliest "A" _).mpr ⟨by rw [whole]; rfl, same, ?_⟩, rfl⟩
    -- The only place before it is held by the component of another name.
    intro place before component there
    obtain rfl := Nat.lt_one_iff.mp before
    rw [whole] at there
    cases there
    rw [other]
    decide

end Registry

end StaticSite
