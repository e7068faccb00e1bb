import StaticSite.Proofs.Disk.Operations

/-!
# Copies of file trees

In a tree that names each entry of a folder once, an overlay on an empty folder is a copy. All
operations of a disk keep its tree so.
-/

namespace StaticSite.Node

mutual

/-- No folder has two entries of one name. -/
def Distinct : Node → Prop
  | .file _ => True
  | .folder entries => (entries.map Prod.fst).Nodup ∧ DistinctEach entries

def DistinctEach : List (String × Node) → Prop
  | [] => True
  | (_, node) :: rest => node.Distinct ∧ DistinctEach rest

end

/-! ### Copies -/

theorem look_cons (entries : Entries) (name : String) (rest : Location) :
    (Node.folder entries).look (name :: rest)
      = (entries.lookup name).bind fun node => node.look rest := by
  unfold look
  simp only [at?]
  cases entries.lookup name <;> rfl

theorem lookup_eq_none_of_notMem {entries : Entries} {name : String}
    (absent : name ∉ entries.map Prod.fst) : entries.lookup name = none := by
  rw [List.lookup_eq_none_iff]
  intro entry listed
  have differs : name ≠ entry.1 := fun same => absent (same ▸ List.mem_map_of_mem listed)
  simpa using differs

theorem lookup_of_mem {entries : Entries} {name : String} {node : Node}
    (names : (entries.map Prod.fst).Nodup) (listed : (name, node) ∈ entries) :
    entries.lookup name = some node := by
  induction entries with
  | nil => contradiction
  | cons entry entries ih =>
    obtain ⟨absent, names⟩ := List.nodup_cons.mp names
    rcases List.mem_cons.mp listed with rfl | listed
    · exact List.lookup_cons_self
    · have differs : (name == entry.1) = false := by
        rw [beq_eq_false_iff_ne]
        rintro rfl
        exact absent (List.mem_map.mpr ⟨_, listed, rfl⟩)
      rw [List.lookup_cons, differs]
      exact ih names listed

theorem mem_of_lookup {entries : Entries} {name : String} {node : Node}
    (found : entries.lookup name = some node) : (name, node) ∈ entries := by
  obtain ⟨front, rest, rfl, _⟩ := List.lookup_eq_some_iff.mp found
  exact List.mem_append_right _ List.mem_cons_self

/-- The result shows the source, and the target where the source has no entry. -/
def Overlaid (source target result : Entries) : Prop := ∀ name rest,
  (Node.folder result).look (name :: rest)
    = if name ∈ source.map Prod.fst then (Node.folder source).look (name :: rest)
      else (Node.folder target).look (name :: rest)

theorem Overlaid.cons {source target result : Entries} {name : String} {node copy : Node}
    (copied : copy.look = node.look) (absent : name ∉ source.map Prod.fst)
    (others : Overlaid source (setEntry name copy target) result) :
    Overlaid ((name, node) :: source) target result := by
  intro other rest
  rw [others other rest]
  by_cases same : other = name
  · subst same
    rw [if_neg absent, List.map_cons, if_pos List.mem_cons_self, look_cons, look_cons, lookup_setEntry, if_pos rfl,
      List.lookup_cons_self, Option.bind_some, Option.bind_some, copied]
  · have differs : (other == name) = false := by simpa using same
    simp only [look_cons, lookup_setEntry, List.map_cons, List.mem_cons, same, false_or, if_false,
      List.lookup_cons, differs]

/-- What is laid over an empty folder is a copy. -/
theorem Overlaid.look {source result : Entries} (laid : Overlaid source [] result) :
    (Node.folder result).look = (Node.folder source).look := by
  funext location
  cases location with
  | nil => rfl
  | cons name rest =>
    rw [laid name rest]
    by_cases listed : name ∈ source.map Prod.fst
    · rw [if_pos listed]
    · rw [if_neg listed, look_cons source, lookup_eq_none_of_notMem listed]
      rfl

theorem free_setEntry {source target : Entries} {name : String} (node : Node)
    (absent : name ∉ source.map Prod.fst)
    (free : ∀ other ∈ source.map Prod.fst, target.lookup other = none) :
    ∀ other ∈ source.map Prod.fst, (setEntry name node target).lookup other = none := by
  intro other listed
  rw [lookup_setEntry, if_neg fun same : other = name => absent (same ▸ listed)]
  exact free other listed

/-- Where no name of the source is taken, everything can be copied. -/
theorem overlay_free : (source target : List (String × Node)) →
    (source.map Prod.fst).Nodup → DistinctEach source →
    (∀ name ∈ source.map Prod.fst, target.lookup name = none) →
    (overlay source target).2 = true ∧ Overlaid source target (overlay source target).1
  | [], target, _, _, _ => ⟨by simp [overlay], fun name rest => by simp [overlay]⟩
  | (name, .file bytes) :: source, target, distinct, each, free => by
    rw [List.map_cons, List.nodup_cons] at distinct
    have vacant := free name List.mem_cons_self
    have others := overlay_free source (setEntry name (.file bytes) target) distinct.2 each.2
      (free_setEntry _ distinct.1 fun other listed => free other (List.mem_cons_of_mem _ listed))
    simp only [overlay, overlayEntry, overlayNode, overlayFile, vacant, Bool.true_and]
    exact ⟨others.1, others.2.cons rfl distinct.1⟩
  | (name, .folder entries) :: source, target, distinct, each, free => by
    rw [List.map_cons, List.nodup_cons] at distinct
    have vacant := free name List.mem_cons_self
    have inner := overlay_free entries [] each.1.1 each.1.2 fun _ _ => rfl
    have copied := inner.2.look
    have others := overlay_free source (setEntry name (.folder (overlay entries []).1) target)
      distinct.2 each.2
      (free_setEntry _ distinct.1 fun other listed => free other (List.mem_cons_of_mem _ listed))
    simp only [overlay, overlayEntry, overlayNode, vacant, inner.1, Bool.true_and]
    exact ⟨others.1, others.2.cons copied distinct.1⟩

/-! ### Distinct names -/

theorem distinctEach_iff {entries : Entries} :
    DistinctEach entries ↔ ∀ entry ∈ entries, entry.2.Distinct := by
  induction entries with
  | nil => simp [DistinctEach]
  | cons entry entries ih =>
    rw [List.forall_mem_cons, ← ih]
    rfl

theorem distinct_empty : Node.empty.Distinct := ⟨List.nodup_nil, trivial⟩

theorem Distinct.at? {root node : Node} {place : Location} (distinct : root.Distinct)
    (found : root.at? place = some node) : node.Distinct := by
  induction place generalizing root with
  | nil =>
    cases found
    exact distinct
  | cons name place ih =>
    obtain ⟨entries, inner, rfl, taken, below⟩ := at?_cons_eq_some.mp found
    exact ih (distinctEach_iff.mp distinct.2 (name, inner) (mem_of_lookup taken)) below

theorem Distinct.modifyAt {change : Node → Node} (place : Location) {root : Node}
    (kept : ∀ node, node.Distinct → (change node).Distinct) (distinct : root.Distinct) :
    (Node.modifyAt change place root).Distinct := by
  induction place generalizing root with
  | nil => exact kept root distinct
  | cons name place ih =>
    cases root with
    | file bytes => trivial
    | folder entries =>
      -- The change keeps every name of the folder, and happens below one of them.
      have names : (entries.map fun entry =>
          if entry.1 = name then (name, Node.modifyAt change place entry.2) else entry).map Prod.fst
            = entries.map Prod.fst := by
        rw [List.map_map]
        refine List.map_congr_left fun entry _ => ?_
        by_cases same : entry.1 = name <;> simp [same]
      refine ⟨names ▸ distinct.1, distinctEach_iff.mpr fun entry listed => ?_⟩
      obtain ⟨old, present, rfl⟩ := List.mem_map.mp listed
      have inner := distinctEach_iff.mp distinct.2 old present
      by_cases same : old.1 = name
      · rw [if_pos same]
        exact ih inner
      · rw [if_neg same]
        exact inner

theorem names_setEntry (name : String) (node : Node) (entries : Entries) :
    (setEntry name node entries).map Prod.fst = entries.map Prod.fst ∨
      (name ∉ entries.map Prod.fst ∧
        (setEntry name node entries).map Prod.fst = entries.map Prod.fst ++ [name]) := by
  induction entries with
  | nil => exact .inr ⟨List.not_mem_nil, rfl⟩
  | cons entry entries ih =>
    unfold setEntry
    by_cases same : entry.1 = name
    · rw [if_pos same]
      exact .inl (by simp [same])
    · rw [if_neg same]
      rcases ih with kept | ⟨absent, added⟩
      · exact .inl (by simp [kept])
      · exact .inr ⟨by simpa [Ne.symm same] using absent, by simp [added]⟩

theorem mem_setEntry {name : String} {node : Node} {entries : Entries} {entry : String × Node}
    (listed : entry ∈ setEntry name node entries) : entry = (name, node) ∨ entry ∈ entries := by
  induction entries with
  | nil => exact .inl (List.mem_singleton.mp listed)
  | cons first entries ih =>
    unfold setEntry at listed
    split at listed
    · rcases List.mem_cons.mp listed with new | listed
      · exact .inl new
      · exact .inr (List.mem_cons_of_mem _ listed)
    · rcases List.mem_cons.mp listed with old | listed
      · exact .inr (old ▸ List.mem_cons_self)
      · exact (ih listed).imp_right (List.mem_cons_of_mem _)

theorem Distinct.insertAt {root node : Node} (folder : Location) (name : String)
    (distinct : root.Distinct) (inner : node.Distinct) :
    (root.insertAt folder name node).Distinct := by
  refine distinct.modifyAt folder fun target whole => ?_
  cases target with
  | file bytes => trivial
  | folder entries =>
    refine ⟨?_, distinctEach_iff.mpr fun entry listed => ?_⟩
    · rcases names_setEntry name node entries with kept | ⟨absent, added⟩
      · rw [kept]
        exact whole.1
      · rw [added]
        refine List.nodup_append.mpr ⟨whole.1, List.pairwise_singleton _ name, fun old present new => ?_⟩
        rintro single rfl
        rw [List.mem_singleton.mp single] at present
        exact absent present
    · rcases mem_setEntry listed with rfl | old
      · exact inner
      · exact distinctEach_iff.mp whole.2 entry old

theorem Distinct.removeAt {root : Node} (folder : Location) (name : String)
    (distinct : root.Distinct) : (root.removeAt folder name).Distinct := by
  refine distinct.modifyAt folder fun target whole => ?_
  cases target with
  | file bytes => trivial
  | folder entries =>
    refine ⟨whole.1.sublist (List.filter_sublist.map Prod.fst),
      distinctEach_iff.mpr fun entry listed => ?_⟩
    exact distinctEach_iff.mp whole.2 entry (List.mem_filter.mp listed).1

end StaticSite.Node

namespace StaticSite.Disk

variable {disk next : Disk} {path : Path}

/-- A disk whose folders name each entry once. -/
def Distinct (disk : Disk) : Prop := disk.root.Distinct

theorem Distinct.makeFolder (distinct : disk.Distinct) (made : makeFolder path disk = .ok next) :
    next.Distinct := by
  obtain ⟨_, _, folder, name, _, rfl⟩ := makeFolder_eq_ok made
  exact distinct.insertAt folder name Node.distinct_empty

theorem Distinct.write {bytes : List UInt8} (distinct : disk.Distinct)
    (written : write path bytes disk = .ok next) : next.Distinct := by
  obtain ⟨place, _, written⟩ := Fault.bind_eq_ok written
  split at written
  · contradiction
  · cases written
    exact Node.Distinct.insertAt _ _ distinct trivial
  · contradiction

theorem Distinct.emptyFolder (distinct : disk.Distinct) (emptied : emptyFolder path disk = .ok next) :
    next.Distinct := by
  obtain ⟨place, _, emptied⟩ := Fault.bind_eq_ok emptied
  split at emptied
  · cases emptied
    exact Node.Distinct.modifyAt _ (fun _ _ => Node.distinct_empty) distinct
  all_goals contradiction

theorem Distinct.removeFolder (distinct : disk.Distinct)
    (removed : removeFolder path disk = .ok next) : next.Distinct := by
  obtain ⟨place, _, removed⟩ := Fault.bind_eq_ok removed
  split at removed
  · cases removed
    exact Node.Distinct.removeAt _ _ distinct
  all_goals contradiction

theorem keeps_distinct_ensureFolder (path : Path) :
    Action.Keeps Distinct (.change (ensureFolder path)) :=
  .change fun before after distinct made => by
    rcases ensureFolder_eq_ok made with made | ⟨rfl, _⟩
    · exact distinct.makeFolder made
    · exact distinct

theorem keeps_distinct_makeFolders (path : Path) : Action.Keeps Distinct (makeFolders path) := by
  unfold makeFolders
  induction path.segments.reverse with
  | nil => exact keeps_distinct_ensureFolder _
  | cons name rest ih =>
    refine .bind (.attempt (keeps_distinct_ensureFolder _)) fun outcome => ?_
    split
    · exact .bind ih fun _ => keeps_distinct_ensureFolder _
    · exact .lift outcome

theorem keeps_distinct_makeNewFolder (path : Path) : Action.Keeps Distinct (makeNewFolder path) := by
  have made : Action.Keeps Distinct (.change (makeFolder path)) :=
    .change fun _ _ distinct made => distinct.makeFolder made
  refine .bind (.attempt made) fun outcome => ?_
  split
  · exact .bind (keeps_distinct_makeFolders path.parent) fun _ => made
  · exact .lift outcome

theorem keeps_distinct_removeTree (path : Path) : Action.Keeps Distinct (removeTree path) :=
  .bind (.change fun _ _ distinct emptied => distinct.emptyFolder emptied)
    fun _ => .change fun _ _ distinct removed => distinct.removeFolder removed

theorem overlay_entries {node : Node} (distinct : node.Distinct) :
    (Node.folder (Node.overlay node.entries []).1).look = (Node.folder node.entries).look := by
  cases node with
  | file bytes => simp [Node.entries, Node.overlay]
  | folder entries =>
    exact (Node.overlay_free entries [] distinct.1 distinct.2 fun _ _ => rfl).2.look

/-- What is copied to a place where nothing was looks as it did. -/
theorem copyTree_eq_ok {source target : Path} (filled : target.segments ≠ [])
    (distinct : disk.Distinct) (vacant : disk.look (disk.place target) = none)
    (apart : ∀ way ∈ disk.ways target, ¬ disk.place target <+: way)
    (copied : copyTree source target disk = (.ok (), next)) :
    ∃ node grown, disk.node source = .ok node ∧ Grown (disk.stops target) disk grown ∧
      next.here = grown.here ∧
      next.look = grown.look.graft (disk.place target) (Node.folder node.entries).look := by
  obtain ⟨_, _, first, second⟩ := Action.bind_eq_ok.mp copied
  cases first
  obtain ⟨old, _, located, third⟩ := Action.bind_eq_ok.mp second
  obtain ⟨_, rfl⟩ := Action.lift_eq_ok.mp located
  obtain ⟨node, _, read, fourth⟩ := Action.bind_eq_ok.mp third
  obtain ⟨found, rfl⟩ := Action.lift_eq_ok.mp read
  obtain ⟨_, grown, making, fifth⟩ := Action.bind_eq_ok.mp fourth
  obtain ⟨_, _, again, sixth⟩ := Action.bind_eq_ok.mp fifth
  cases again
  obtain ⟨new, _, reached, seventh⟩ := Action.bind_eq_ok.mp sixth
  obtain ⟨located, rfl⟩ := Action.lift_eq_ok.mp reached
  obtain ⟨rfl, _⟩ := locate_eq_ok.mp located
  have growth := makeFolders_grown target disk
  have present := makeFolders_look filled making
  rw [making] at growth
  rw [place_eq_of_here growth.here] at present
  -- The target is a new folder, so nothing is in it.
  have bare (rest : Location) :
      grown.look (disk.place target ++ rest) = Node.empty.look rest := by
    cases rest with
    | nil => rwa [List.append_nil]
    | cons name rest =>
      have missing := Node.look_below_none vacant (name :: rest)
      rcases growth.look (disk.place target ++ name :: rest) with same | ⟨_, _, listed⟩
      · exact same.trans missing
      · rcases List.mem_append.mp listed with passed | last
        · exact absurd (List.prefix_append _ _) (apart _ passed)
        · exact absurd (List.mem_singleton.mp last) (by simp)
  have empty := at?_eq_empty bare
  refine ⟨node, grown, found, growth, ?_⟩
  rw [place_eq_of_here growth.here, empty] at seventh
  split at seventh
  · cases seventh
  · obtain ⟨_, _, merging, last⟩ := Action.bind_eq_ok.mp seventh
    cases merging
    split at last
    · cases last
      refine ⟨rfl, ?_⟩
      have whole := distinct.at? (node_eq_ok.mp found).2
      show (Node.modifyAt _ _ _).look = _
      rw [Node.look_modifyAt, empty]
      exact congrArg _ (overlay_entries whole)
    · cases last

end StaticSite.Disk
