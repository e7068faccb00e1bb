import StaticSite.Proofs.Component.Discovery

/-!
# Listing orders

A file system lists the entries of a folder in an order of its own. The search sorts them by their
names, and of two entries of a folder one name comes first. So what is found depends on what stands
at each location of the disk, and on nothing else.
-/

namespace StaticSite

open StaticSite.Text

namespace Node

/-! ### Other listings -/

/-- A tree in another listing order: entries of its folders have changed places. -/
inductive Relisted : Node → Node → Prop where
  | refl (node : Node) : Relisted node node
  | swap {entries others : Entries} (listed : entries.Perm others) :
      Relisted (.folder entries) (.folder others)
  | entry (front back : Entries) (name : String) {node other : Node}
      (inner : Relisted node other) :
      Relisted (.folder (front ++ (name, node) :: back)) (.folder (front ++ (name, other) :: back))
  | trans {node next last : Node} (first : Relisted node next) (second : Relisted next last) :
      Relisted node last

theorem lookup_perm {entries others : Entries} (names : (entries.map Prod.fst).Nodup)
    (listed : entries.Perm others) (name : String) :
    entries.lookup name = others.lookup name := by
  refine Option.ext fun node => ⟨fun found => ?_, fun found => ?_⟩
  · have kept : (others.map Prod.fst).Nodup := (listed.map _).nodup_iff.mp names
    exact lookup_of_mem kept (listed.mem_iff.mp (mem_of_lookup found))
  · exact lookup_of_mem names (listed.mem_iff.mpr (mem_of_lookup found))

/-- Another listing of a tree shows the same. -/
theorem Relisted.look {node other : Node} (relisted : Relisted node other)
    (distinct : node.Distinct) : other.look = node.look ∧ other.Distinct := by
  induction relisted with
  | refl => exact ⟨rfl, distinct⟩
  | @swap entries others listed =>
    refine ⟨funext fun place => ?_, (listed.map _).nodup_iff.mp distinct.1, ?_⟩
    · cases place with
      | nil => rfl
      | cons name rest => rw [look_cons, look_cons, lookup_perm distinct.1 listed]
    · exact distinctEach_iff.mpr fun entry inside =>
        distinctEach_iff.mp distinct.2 entry (listed.mem_iff.mpr inside)
  | @entry front back name node other _ ih =>
    have each := distinctEach_iff.mp distinct.2
    rw [List.forall_mem_append, List.forall_mem_cons] at each
    obtain ⟨shown, kept⟩ := ih each.2.1
    refine ⟨funext fun place => ?_, ?_, distinctEach_iff.mpr ?_⟩
    · cases place with
      | nil => rfl
      | cons key rest =>
        rw [look_cons, look_cons, List.lookup_append, List.lookup_append, List.lookup_cons,
          List.lookup_cons]
        -- The entry counts only where no earlier one has its name.
        cases front.lookup key with
        | some found => rfl
        | none =>
          cases key == name with
          | true => simp [shown]
          | false => rfl
    · have names := distinct.1
      rwa [List.map_append, List.map_cons] at names ⊢
    · rw [List.forall_mem_append, List.forall_mem_cons]
      exact ⟨each.1, kept, each.2.2⟩
  | trans _ _ first second =>
    obtain ⟨shown, kept⟩ := first distinct
    obtain ⟨same, last⟩ := second kept
    exact ⟨same.trans shown, last⟩

/-- Trees that show the same have the same entries, and these show the same. -/
theorem lookup_of_look {entries others : Entries} {name : String} {node : Node}
    (same : (Node.folder entries).look = (Node.folder others).look)
    (found : entries.lookup name = some node) :
    ∃ other, others.lookup name = some other ∧ node.look = other.look := by
  have shown (rest : Location) := congrFun same (name :: rest)
  simp only [look_cons, found, Option.bind_some] at shown
  cases there : others.lookup name with
  | none =>
    rw [there] at shown
    exact absurd (shown []) nofun
  | some other =>
    rw [there] at shown
    exact ⟨other, rfl, funext shown⟩

theorem kind_of_look {node other : Node} (same : node.look = other.look) : node.kind = other.kind :=
  Option.some.inj (congrFun same [])

theorem lookup_file_of_look {entries others : Entries} {file : String} {bytes : List UInt8}
    (same : (Node.folder entries).look = (Node.folder others).look)
    (found : entries.lookup file = some (.file bytes)) :
    others.lookup file = some (.file bytes) := by
  obtain ⟨other, there, shown⟩ := lookup_of_look same found
  cases other with
  | folder inner => cases kind_of_look shown
  | file others =>
    cases kind_of_look shown
    exact there

theorem text_of_kind {node other : Node} (same : node.kind = other.kind) :
    node.text = other.text := by
  cases node <;> cases other <;> cases same <;> rfl

end Node

namespace Component

open Node

/-! ### Things in the order of their names -/

/-- Things of different names have only one order. -/
theorem eq_of_strict {α : Type} (name : α → String) {items others : List α}
    (first : items.Pairwise fun a b => name a < name b)
    (second : others.Pairwise fun a b => name a < name b)
    (same : ∀ item, item ∈ items ↔ item ∈ others) : items = others := by
  have nodup {listed : List α} (sorted : listed.Pairwise fun a b => name a < name b) :
      listed.Nodup := by
    refine sorted.imp fun less => ?_
    rintro rfl
    exact lt_irrefl _ less
  have permuted := (List.perm_ext_iff_of_nodup (nodup first) (nodup second)).mpr same
  refine permuted.eq_of_pairwise (fun a b _ _ here there => ?_) first second
  exact absurd (here.trans there) (lt_irrefl _)

section

variable {α : Type} {items others : List (String × α)}

theorem byName_map {β : Type} (f : String × α → β) (items : List (String × α)) :
    byName (items.map fun item => (item.1, f item))
      = (byName items).map fun item => (item.1, f item) := by
  unfold byName
  rw [List.map_mergeSort]
  exact fun _ _ _ _ => rfl

/-- Different names come one after the other. -/
theorem byName_strict (names : (items.map Prod.fst).Nodup) :
    (byName items).Pairwise fun first second => first.1 < second.1 := by
  have ordered : (byName items).Pairwise fun first second => ¬ second.1 < first.1 := by
    refine (List.pairwise_mergeSort ?_ ?_ items).imp fun kept => by simpa using kept
    · intro first second third here there
      simp only [Bool.not_eq_true', decide_eq_false_iff_not, not_lt] at here there ⊢
      exact here.trans there
    · intro first second
      simp only [Bool.or_eq_true, Bool.not_eq_true', decide_eq_false_iff_not, not_lt]
      exact le_total _ _
  have differ : (byName items).Pairwise fun first second => first.1 ≠ second.1 := by
    rw [← List.pairwise_map]
    exact ((byName_perm items).map _).nodup_iff.mpr names
  refine (ordered.and differ).imp fun both => ?_
  exact lt_of_le_of_ne (not_lt.mp both.1) both.2

/-- The order is given by the things and their names. -/
theorem byName_congr (names : (items.map Prod.fst).Nodup) (kept : (others.map Prod.fst).Nodup)
    (same : ∀ item, item ∈ items ↔ item ∈ others) : byName items = byName others := by
  refine eq_of_strict Prod.fst (byName_strict names) (byName_strict kept) fun item => ?_
  rw [(byName_perm items).mem_iff, (byName_perm others).mem_iff, same]

end

/-! ### The search -/

/-- The names of the markup files of a folder, in order. -/
def markupNames (entries : Entries) : List String :=
  (byName (entries.filter isMarkupFile)).map Prod.fst

theorem inFolder_eq (folder below : Path) (entries : Entries) :
    inFolder folder below entries = (markupNames entries).mapM (ofFile folder below entries) := by
  rw [markupNames, List.mapM_map]
  rfl

theorem markupNames_strict {entries : Entries} (names : (entries.map Prod.fst).Nodup) :
    (markupNames entries).Pairwise (· < ·) := by
  rw [markupNames, List.pairwise_map]
  exact byName_strict ((List.filter_sublist.map _).nodup names)

theorem mem_markupNames {entries : Entries} (names : (entries.map Prod.fst).Nodup) {file : String} :
    file ∈ markupNames entries ↔ ∃ stem bytes, stem ≠ "" ∧ file = stem ++ ".html" ∧
      entries.lookup file = some (.file bytes) := by
  simp only [markupNames, List.mem_map, (byName_perm _).mem_iff, List.mem_filter, isMarkupFile_iff]
  constructor
  · rintro ⟨entry, ⟨listed, stem, bytes, nonempty, rfl⟩, rfl⟩
    exact ⟨stem, bytes, nonempty, rfl, lookup_of_mem names listed⟩
  · rintro ⟨stem, bytes, nonempty, rfl, found⟩
    exact ⟨_, ⟨mem_of_lookup found, stem, bytes, nonempty, rfl⟩, rfl⟩

section

variable {entries others : Entries} (names : (entries.map Prod.fst).Nodup)
  (kept : (others.map Prod.fst).Nodup)
  (same : (Node.folder entries).look = (Node.folder others).look)

include same in
theorem readConfig_congr (folder : Path) : readConfig folder entries = readConfig folder others := by
  cases found : entries.lookup configFile with
  | none =>
    have absent : others.lookup configFile = none := by
      rw [Option.eq_none_iff_forall_not_mem]
      intro node there
      obtain ⟨other, here, -⟩ := lookup_of_look same.symm there
      rw [found] at here
      contradiction
    rw [readConfig, readConfig, found, absent]
  | some node =>
    obtain ⟨other, there, shown⟩ := lookup_of_look same found
    simp only [readConfig, found, there, text_of_kind (kind_of_look shown)]

include names kept same in
theorem inFolder_congr (folder below : Path) :
    inFolder folder below entries = inFolder folder below others := by
  have reads : ofFile folder below entries = ofFile folder below others := by
    funext file
    simp only [ofFile, readConfig_congr same]
  have listed : markupNames entries = markupNames others := by
    refine eq_of_strict id (markupNames_strict names) (markupNames_strict kept) fun file => ?_
    rw [mem_markupNames names, mem_markupNames kept]
    refine exists_congr fun stem => exists_congr fun bytes => ?_
    refine and_congr_right fun _ => and_congr_right fun _ => ?_
    exact ⟨lookup_file_of_look same, lookup_file_of_look same.symm⟩
  rw [inFolder_eq, inFolder_eq, reads, listed]

end

/-- The search of a tree is given by what the tree shows. -/
theorem discoverAt_congr (node : Node) : ∀ {other : Node} {folder below : Path}, node.Distinct →
    other.Distinct → node.look = other.look →
    discoverAt folder below node = discoverAt folder below other := by
  induction node using Node.induction with
  | file bytes =>
    intro other folder below _ _ same
    cases other with
    | folder others => cases kind_of_look same
    | file others =>
      rw [discoverAt, discoverAt]
  | folder entries ih =>
    intro other folder below distinct kept same
    cases other with
    | file bytes => cases kind_of_look same
    | folder others =>
      -- Each entry has a partner of its name, and below both the same is found.
      have alike {name : String} {inner there : Node} (listed : (name, inner) ∈ entries)
          (beside : (name, there) ∈ others) (shown : inner.look = there.look) :
          discoverAt (folder.child name) (below.child name) inner
            = discoverAt (folder.child name) (below.child name) there :=
        ih _ listed (distinctEach_iff.mp distinct.2 _ listed) (distinctEach_iff.mp kept.2 _ beside)
          shown
      have parts : byName (discoverEach folder below entries)
          = byName (discoverEach folder below others) := by
        rw [discoverEach_eq, discoverEach_eq]
        refine byName_congr ?_ ?_ fun item => ?_
        · rw [List.map_map]
          exact distinct.1
        · rw [List.map_map]
          exact kept.1
        simp only [List.mem_map]
        constructor
        · rintro ⟨⟨name, inner⟩, listed, rfl⟩
          obtain ⟨there, found, shown⟩ := lookup_of_look same (lookup_of_mem distinct.1 listed)
          exact ⟨(name, there), mem_of_lookup found,
            congrArg (name, ·) (alike listed (mem_of_lookup found) shown).symm⟩
        · rintro ⟨⟨name, there⟩, listed, rfl⟩
          obtain ⟨inner, found, shown⟩ := lookup_of_look same.symm (lookup_of_mem kept.1 listed)
          exact ⟨(name, inner), mem_of_lookup found,
            congrArg (name, ·) (alike (mem_of_lookup found) listed shown.symm)⟩
      rw [discoverAt, discoverAt, inFolder_congr distinct.1 kept.1 same]
      simp only [joinByName, parts]

/-- What a path leads to shows the same on disks that show the same. -/
theorem node?_look {disk other : Disk} (here : other.here = disk.here)
    (same : other.look = disk.look) (path : Path) :
    (other.node? path).map Node.look = (disk.node? path).map Node.look := by
  -- It is enough to go from one disk to the other, as both directions are the same.
  have moved {first second : Disk} (start : second.here = first.here)
      (alike : second.look = first.look) {view : View}
      (found : (first.node? path).map Node.look = some view) :
      (second.node? path).map Node.look = some view := by
    obtain ⟨node, read, rfl⟩ := Option.map_eq_some_iff.mp found
    obtain ⟨opens, stands⟩ := Disk.node?_eq_some.mp read
    have opened : second.Opens path := opens.of_ways start fun way _ => congrFun alike way
    have below (rest : Location) := congrFun alike (first.place path ++ rest)
    simp only [Disk.look, look_append, stands, Option.bind_some] at below
    cases there : second.root.at? (first.place path) with
    | none =>
      rw [there] at below
      exact absurd (below []) nofun
    | some other =>
      rw [there] at below
      have read : second.node? path = some other :=
        Disk.node?_eq_some.mpr ⟨opened, by rw [Disk.place_eq_of_here start, there]⟩
      rw [read]
      exact congrArg some (funext below)
  refine Option.ext fun view => ?_
  exact ⟨moved here.symm same.symm, moved here same⟩

theorem discoverRoot_congr {disk other : Disk} (distinct : disk.root.Distinct)
    (kept : other.root.Distinct) (here : other.here = disk.here) (same : other.look = disk.look)
    (root : Path) : discoverRoot other root = discoverRoot disk root := by
  have shown := node?_look here same root
  unfold discoverRoot
  cases read : disk.node? root with
  | none =>
    rw [read] at shown
    rw [Option.map_eq_none_iff.mp shown]
  | some tree =>
    rw [read] at shown
    obtain ⟨other, there, alike⟩ := Option.map_eq_some_iff.mp shown
    rw [there]
    -- A file and a folder do not show the same.
    cases tree with
    | file bytes =>
      cases other with
      | folder others => cases kind_of_look alike
      | file others => rfl
    | folder entries =>
      cases other with
      | file bytes => cases kind_of_look alike
      | folder others =>
        exact discoverAt_congr _ (kept.at? (Disk.node?_eq_some.mp there).2)
          (distinct.at? (Disk.node?_eq_some.mp read).2) alike

end Component

/-- The search is given by what the disk shows. -/
theorem Registry.discover_congr {disk other : Disk} (distinct : disk.root.Distinct)
    (kept : other.root.Distinct) (here : other.here = disk.here) (same : other.look = disk.look)
    (roots : List Path) : Registry.discover other roots = Registry.discover disk roots := by
  have each : Component.discoverRoot other = Component.discoverRoot disk :=
    funext (Component.discoverRoot_congr distinct kept here same)
  rw [Registry.discover, Registry.discover, each]

end StaticSite
