import StaticSite.Disk
import StaticSite.Proofs.Disk.View
import StaticSite.Proofs.Ending

/-!
# What disk operations do

Where a path leads does not depend on the disk: the disk only has to hold a folder at each location
on the way. So an operation on a path needs a folder at these locations, and it changes the view of
the disk at and below the place of the path.
-/

namespace StaticSite

/-- The location that a segment leads to. -/
def Location.enter (place : Location) (segment : String) : Location :=
  if segment = ".." then place.dropLast else place ++ [segment]

/-- The location that segments lead to. -/
def Location.resolve (place : Location) (segments : List String) : Location :=
  segments.foldl Location.enter place

/-- The locations that segments lead through, the first one included and the last one not. -/
def Location.ways : Location → List String → List Location
  | _, [] => []
  | place, segment :: rest => place :: Location.ways (place.enter segment) rest

namespace Location

theorem resolve_append (place : Location) (front rest : List String) :
    place.resolve (front ++ rest) = (place.resolve front).resolve rest :=
  List.foldl_append

theorem resolve_snoc (place : Location) (front : List String) (last : String) :
    place.resolve (front ++ [last]) = (place.resolve front).enter last :=
  resolve_append place front [last]

theorem ways_append (place : Location) (front rest : List String) :
    place.ways (front ++ rest) = place.ways front ++ (place.resolve front).ways rest := by
  induction front generalizing place with
  | nil => rfl
  | cons segment front ih =>
    show place :: (place.enter segment).ways (front ++ rest) = _
    rw [ih]
    rfl

theorem ways_snoc (place : Location) (front : List String) (last : String) :
    place.ways (front ++ [last]) = place.ways front ++ [place.resolve front] :=
  ways_append place front [last]

theorem enter_of_ne {place : Location} {segment : String} (plain : segment ≠ "..") :
    place.enter segment = place ++ [segment] :=
  if_neg plain

theorem resolve_of_plain {place : Location} {segments : List String} (plain : ".." ∉ segments) :
    place.resolve segments = place ++ segments := by
  induction segments generalizing place with
  | nil => simp [resolve]
  | cons segment rest ih =>
    rw [List.mem_cons, not_or] at plain
    show (place.enter segment).resolve rest = _
    rw [enter_of_ne (Ne.symm plain.1), ih plain.2, List.append_assoc]
    rfl

theorem mem_ways_of_plain {place way : Location} {segments : List String}
    (plain : ".." ∉ segments) (passed : way ∈ place.ways segments) : way <+: place ++ segments := by
  induction segments generalizing place with
  | nil => exact absurd passed List.not_mem_nil
  | cons segment rest ih =>
    rw [List.mem_cons, not_or] at plain
    rcases List.mem_cons.mp passed with rfl | passed
    · exact List.prefix_append _ _
    · have deeper := ih plain.2 passed
      rwa [enter_of_ne (Ne.symm plain.1), List.append_assoc] at deeper

theorem prefix_of_mem_ways_of_plain {place way : Location} {segments : List String}
    (plain : ".." ∉ segments) (passed : way ∈ place.ways segments) : place <+: way := by
  induction segments generalizing place with
  | nil => exact absurd passed List.not_mem_nil
  | cons segment rest ih =>
    rw [List.mem_cons, not_or] at plain
    rcases List.mem_cons.mp passed with rfl | passed
    · exact List.prefix_rfl
    · have deeper := ih plain.2 passed
      rw [enter_of_ne (Ne.symm plain.1)] at deeper
      exact (List.prefix_append place [segment]).trans deeper

end Location

namespace Disk

abbrev look (disk : Disk) : View := disk.root.look

abbrev file? (disk : Disk) : Location → Option (List UInt8) := disk.look.file?

/-- Where a path starts. -/
def start (disk : Disk) (path : Path) : Location := if path.isAbsolute then [] else disk.here

/-- Where a path leads. -/
def place (disk : Disk) (path : Path) : Location := (disk.start path).resolve path.segments

/-- The locations that a path leads through. -/
def ways (disk : Disk) (path : Path) : List Location := (disk.start path).ways path.segments

/-- A path that can be followed: no segment holds a zero character, and there are folders on the
way. -/
structure Opens (disk : Disk) (path : Path) : Prop where
  legal : (path.segments.any fun segment => segment.toList.elem '\x00') = false
  passable : ∀ way ∈ disk.ways path, disk.look way = some .folder

variable {disk next after : Disk} {path : Path} {place : Location}

/-! ### Following paths -/

theorem follow_eq_ok {root : Node} {segments : List String} {found : Location} :
    follow root place segments = .ok found ↔
      found = place.resolve segments ∧ ∀ way ∈ place.ways segments, root.look way = some .folder := by
  induction segments generalizing place with
  | nil => simp [follow, Location.resolve, Location.ways, eq_comm]
  | cons segment rest ih =>
    unfold follow
    -- Every folder on the way is looked at before the next name is entered.
    cases here : root.at? place with
    | none =>
      have missing : root.look place ≠ some .folder := by rw [Node.look_eq_none.mpr here]; nofun
      simp [Location.ways, missing]
    | some node =>
      cases node with
      | file bytes =>
        have other : root.look place ≠ some .folder := by
          rw [Node.look_eq_file.mpr here]
          nofun
        simp [Location.ways, other]
      | folder entries =>
        have passed := Node.look_eq_folder.mpr ⟨entries, here⟩
        simp only [Location.ways, List.forall_mem_cons, passed, true_and]
        exact ih

theorem locate_eq_ok : disk.locate path = .ok place ↔ place = disk.place path ∧ disk.Opens path := by
  unfold locate
  cases illegal : path.segments.any fun segment => segment.toList.elem '\x00' with
  | true =>
    have closed : ¬ disk.Opens path := fun opens => by
      rw [opens.legal] at illegal
      contradiction
    simp [closed]
  | false =>
    rw [if_neg Bool.false_ne_true]
    refine follow_eq_ok.trans (and_congr_right fun _ => ?_)
    exact ⟨fun passable => ⟨illegal, passable⟩, fun opens => opens.passable⟩

theorem Opens.locate (opens : disk.Opens path) : disk.locate path = .ok (disk.place path) :=
  locate_eq_ok.mpr ⟨rfl, opens⟩

theorem exists_locate_eq_error (closed : ¬ disk.Opens path) :
    ∃ fault, disk.locate path = .error fault := by
  cases located : disk.locate path with
  | ok place => exact absurd (locate_eq_ok.mp located).2 closed
  | error fault => exact ⟨fault, rfl⟩

theorem start_eq_of_here (same : next.here = disk.here) : next.start path = disk.start path := by
  simp [start, same]

theorem place_eq_of_here (same : next.here = disk.here) : next.place path = disk.place path := by
  simp [place, start_eq_of_here same]

theorem ways_eq_of_here (same : next.here = disk.here) : next.ways path = disk.ways path := by
  simp [ways, start_eq_of_here same]

/-- A path can still be followed when nothing on its way has changed. -/
theorem Opens.of_ways (opens : disk.Opens path) (same : next.here = disk.here)
    (kept : ∀ way ∈ disk.ways path, next.look way = disk.look way) : next.Opens path where
  legal := opens.legal
  passable way passed := by
    rw [ways_eq_of_here same] at passed
    rw [kept way passed]
    exact opens.passable way passed

/-- What a path leads to stands in a folder, whichever way the path takes to it. -/
theorem Opens.look_parent {folder : Location} {name : String} (opens : disk.Opens path)
    (filled : path.segments ≠ []) (split : disk.place path = folder ++ [name]) :
    disk.look folder = some .folder := by
  have cut := List.dropLast_append_getLast filled
  generalize path.segments.dropLast = front at cut
  generalize path.segments.getLast filled = last at cut
  have above : disk.look ((disk.start path).resolve front) = some .folder := by
    refine opens.passable _ ?_
    rw [ways, ← cut, Location.ways_snoc]
    exact List.mem_append_right _ List.mem_cons_self
  rw [Disk.place, ← cut, Location.resolve_snoc] at split
  generalize (disk.start path).resolve front = inner at above split
  by_cases up : last = ".."
  · -- The way comes back from a folder below, so there are folders all the way down to it.
    subst up
    have back : inner.dropLast = folder ++ [name] := split
    have deep : inner ≠ [] := fun top => by
      rw [top] at back
      exact List.append_ne_nil_of_right_ne_nil folder (List.cons_ne_nil name []) back.symm
    have whole := List.dropLast_append_getLast deep
    rw [back, List.append_assoc] at whole
    have present : disk.look (folder ++ name :: [inner.getLast deep]) ≠ none := by
      rw [show name :: [inner.getLast deep] = [name] ++ [inner.getLast deep] from rfl, whole, above]
      exact nofun
    exact Node.look_of_below present
  · rw [Location.enter_of_ne up] at split
    rw [← List.append_inj_left' split rfl]
    exact above

/-! ### Questions -/

theorem node_eq_ok {found : Node} :
    disk.node path = .ok found ↔ disk.Opens path ∧ disk.root.at? (disk.place path) = some found := by
  by_cases opens : disk.Opens path
  · simp only [node, opens.locate, bind, Except.bind, opens, true_and]
    cases disk.root.at? (disk.place path) <;> simp
  · obtain ⟨fault, lost⟩ := exists_locate_eq_error opens
    simp [node, lost, opens, bind, Except.bind]

theorem node?_eq_some {found : Node} :
    disk.node? path = some found ↔
      disk.Opens path ∧ disk.root.at? (disk.place path) = some found := by
  rw [← node_eq_ok, node?]
  cases disk.node path <;> simp [Except.toOption]

theorem isFolder_iff :
    disk.isFolder path = true ↔
      disk.Opens path ∧ disk.look (disk.place path) = some .folder := by
  rw [Node.look_eq_folder]
  unfold isFolder
  cases found : disk.node? path with
  | none =>
    constructor
    · exact nofun
    · rintro ⟨opens, entries, here⟩
      rw [node?_eq_some.mpr ⟨opens, here⟩] at found
      contradiction
  | some node =>
    obtain ⟨opens, here⟩ := node?_eq_some.mp found
    cases node with
    | file bytes => simp [Node.isFolder, here]
    | folder entries => simp [Node.isFolder, here, opens]

theorem contains_iff :
    disk.contains path = true ↔ disk.Opens path ∧ disk.look (disk.place path) ≠ none := by
  rw [Ne, Node.look_eq_none, ← Ne, Option.ne_none_iff_exists', contains, Option.isSome_iff_exists]
  simp only [node?_eq_some, exists_and_left]

/-! ### Making folders and writing files -/

/-- Another disk that differs at most by new folders at some locations. -/
structure Grown (places : List Location) (before after : Disk) : Prop where
  here : after.here = before.here
  look : ∀ location, after.look location = before.look location ∨
    (before.look location = none ∧ after.look location = some .folder ∧ location ∈ places)

namespace Grown

variable {places more : List Location} {location : Location}

theorem refl (places : List Location) (disk : Disk) : Grown places disk disk :=
  ⟨rfl, fun _ => .inl rfl⟩

theorem trans (first : Grown places disk next) (second : Grown places next after) :
    Grown places disk after := by
  refine ⟨second.here.trans first.here, fun location => ?_⟩
  rcases second.look location with same | ⟨missing, made, listed⟩
  · rw [same]
    exact first.look location
  · rcases first.look location with same | ⟨_, present, _⟩
    · exact .inr ⟨same ▸ missing, made, listed⟩
    · rw [missing] at present
      contradiction

theorem mono (grown : Grown places disk next) (wider : places ⊆ more) : Grown more disk next :=
  ⟨grown.here, fun location => (grown.look location).imp_right fun ⟨missing, made, listed⟩ =>
    ⟨missing, made, wider listed⟩⟩

theorem look_of_notMem (grown : Grown places disk next) (unlisted : location ∉ places) :
    next.look location = disk.look location :=
  (grown.look location).resolve_right fun made => unlisted made.2.2

theorem look_folder (grown : Grown places disk next) (present : disk.look location = some .folder) :
    next.look location = some .folder := by
  rcases grown.look location with same | ⟨missing, _, _⟩
  · rw [same, present]
  · rw [missing] at present
    contradiction

/-- New folders are no files. -/
theorem file? (grown : Grown places disk next) (location : Location) :
    next.file? location = disk.file? location := by
  rcases grown.look location with same | ⟨missing, made, _⟩
  · exact View.file?_congr same
  · exact (View.file?_of_folder made).trans (View.file?_of_none missing).symm

end Grown

theorem look_insert {folder : Location} {name : String} {node : Node} (opens : disk.Opens path)
    (filled : path.segments ≠ []) (split : disk.place path = folder ++ [name]) :
    (disk.root.insertAt folder name node).look = disk.look.graft (disk.place path) node.look := by
  rw [split]
  exact Node.look_insertAt name node (opens.look_parent filled split)

theorem makeFolder_eq_ok (made : makeFolder path disk = .ok next) :
    disk.Opens path ∧ disk.look (disk.place path) = none ∧
      ∃ folder name, disk.place path = folder ++ [name] ∧
        next = { disk with root := disk.root.insertAt folder name .empty } := by
  obtain ⟨place, located, made⟩ := Fault.bind_eq_ok made
  obtain ⟨rfl, opens⟩ := locate_eq_ok.mp located
  split at made
  · rename_i name vacant last
    exact ⟨opens, Node.look_eq_none.mpr vacant, (disk.place path).dropLast, name,
      (List.dropLast_append_getLast? name last).symm, (Except.ok.inj made).symm⟩
  · contradiction

theorem makeFolder_look (filled : path.segments ≠ []) (made : makeFolder path disk = .ok next) :
    next.here = disk.here ∧
      next.look = disk.look.graft (disk.place path) Node.empty.look := by
  obtain ⟨opens, _, folder, name, split, rfl⟩ := makeFolder_eq_ok made
  exact ⟨rfl, look_insert opens filled split⟩

theorem makeFolder_grown (made : makeFolder path disk = .ok next) :
    Grown [disk.place path] disk next := by
  obtain ⟨_, vacant, folder, name, split, rfl⟩ := makeFolder_eq_ok made
  refine ⟨rfl, fun location => ?_⟩
  show (disk.root.insertAt folder name .empty).look location = _ ∨ _ ∧
    (disk.root.insertAt folder name .empty).look location = _ ∧ _
  by_cases parent : disk.root.look folder = some .folder
  · rw [Node.look_insertAt name .empty parent, ← split]
    by_cases inside : disk.place path <+: location
    · obtain ⟨rest, rfl⟩ := inside
      have missing := Node.look_below_none vacant rest
      rw [View.graft_append]
      -- Only the folder itself is new: it is empty, and nothing stood below it.
      cases rest with
      | nil => exact .inr ⟨missing, rfl, by simp⟩
      | cons name rest => exact .inl missing.symm
    · exact .inl (View.graft_of_not_prefix _ _ inside)
  · rw [Node.look_insertAt_of_not_folder name .empty parent]
    exact .inl rfl

theorem ensureFolder_eq_ok (made : ensureFolder path disk = .ok next) :
    makeFolder path disk = .ok next ∨ (next = disk ∧ disk.isFolder path = true) := by
  unfold ensureFolder at made
  split at made
  · rename_i ended
    exact .inl (ended.trans made)
  · contradiction
  · split at made
    · rename_i present
      exact .inr ⟨(Except.ok.inj made).symm, present⟩
    · contradiction

theorem ensureFolder_grown (made : ensureFolder path disk = .ok next) :
    Grown [disk.place path] disk next := by
  rcases ensureFolder_eq_ok made with made | ⟨rfl, _⟩
  · exact makeFolder_grown made
  · exact .refl _ _

theorem ensureFolder_look (filled : path.segments ≠ []) (made : ensureFolder path disk = .ok next) :
    next.look (next.place path) = some .folder := by
  rcases ensureFolder_eq_ok made with made | ⟨rfl, present⟩
  · obtain ⟨here, view⟩ := makeFolder_look filled made
    rw [place_eq_of_here here, view]
    exact View.graft_self _ _ _
  · exact (isFolder_iff.mp present).2

theorem write_eq_ok {bytes : List UInt8} (filled : path.segments ≠ [])
    (written : write path bytes disk = .ok next) :
    disk.Opens path ∧ disk.look (disk.place path) ≠ some .folder ∧ next.here = disk.here ∧
      next.look = disk.look.graft (disk.place path) (Node.file bytes).look := by
  obtain ⟨place, located, written⟩ := Fault.bind_eq_ok written
  obtain ⟨rfl, opens⟩ := locate_eq_ok.mp located
  split at written
  · contradiction
  · rename_i name last other
    cases written
    refine ⟨opens, fun taken => ?_, rfl,
      look_insert opens filled (List.dropLast_append_getLast? name last).symm⟩
    obtain ⟨entries, here⟩ := Node.look_eq_folder.mp taken
    exact other entries here
  · contradiction

/-- Writing changes the contents of one file. -/
theorem write_file? {bytes : List UInt8} (filled : path.segments ≠ [])
    (written : write path bytes disk = .ok next) (location : Location) :
    next.file? location = if location = disk.place path then some bytes else disk.file? location := by
  obtain ⟨_, other, _, view⟩ := write_eq_ok filled written
  unfold file? View.file?
  rw [view]
  by_cases inside : disk.place path <+: location
  · obtain ⟨rest, rfl⟩ := inside
    rw [View.graft_append]
    cases rest with
    | nil =>
      rw [List.append_nil, if_pos rfl]
      rfl
    | cons name rest =>
      have below : disk.look (disk.place path ++ name :: rest) = none := Node.look_below other
      rw [if_neg (by simp), below]
      rfl
  · rw [View.graft_of_not_prefix _ _ inside, if_neg fun same : location = _ => inside (same ▸ List.prefix_rfl)]

/-- The locations that a path leads through and the one that it leads to. -/
def stops (disk : Disk) (path : Path) : List Location := disk.ways path ++ [disk.place path]

theorem ways_eq_stops_parent (filled : path.segments ≠ []) :
    disk.ways path = disk.stops path.parent := by
  have whole := Location.ways_snoc (disk.start path) path.segments.dropLast
    (path.segments.getLast filled)
  rw [List.dropLast_append_getLast filled] at whole
  exact whole

theorem ensureAll_grown {places : List Location} {origin : Disk} (slashes : Nat)
    (reversed : List String)
    (listed : ∀ stop ∈ origin.stops ⟨slashes, reversed.reverse⟩, stop ∈ places) :
    Action.Keeps (Grown places origin) (ensureAll slashes reversed) := by
  have ensured {path : Path} (here : origin.place path ∈ places) :
      Action.Keeps (Grown places origin) (.change (ensureFolder path)) :=
    .change fun before after grown made => by
      refine grown.trans ((ensureFolder_grown made).mono ?_)
      rw [place_eq_of_here grown.here]
      exact List.cons_subset.mpr ⟨here, List.nil_subset places⟩
  induction reversed with
  | nil => exact ensured (listed _ (List.mem_append_right _ List.mem_cons_self))
  | cons name rest ih =>
    have last : Action.Keeps (Grown places origin)
        (.change (ensureFolder ⟨slashes, (name :: rest).reverse⟩)) := ensured
      (listed _ (List.mem_append_right _ List.mem_cons_self))
    -- The parents are made only where making the last folder did not go at once.
    refine .bind (.attempt last) fun outcome => ?_
    split
    · refine .bind (ih fun stop stops => listed stop (List.mem_append_left _ ?_)) fun _ => last
      rw [ways_eq_stops_parent (by simp)]
      simpa [Path.parent] using stops
    · exact .lift outcome

theorem makeFolders_grown (path : Path) (disk : Disk) :
    Grown (disk.stops path) disk (makeFolders path disk).2 := by
  refine ensureAll_grown path.slashes path.segments.reverse (fun stop stops => ?_) disk (.refl _ _)
  rwa [List.reverse_reverse] at stops

theorem makeFolders_look (filled : path.segments ≠ [])
    (made : makeFolders path disk = (.ok (), next)) :
    next.look (next.place path) = some .folder := by
  unfold makeFolders at made
  cases reversed : path.segments.reverse with
  | nil => exact absurd (List.reverse_eq_nil_iff.mp reversed) filled
  | cons name rest =>
    have whole : (⟨path.slashes, (name :: rest).reverse⟩ : Path) = path := by
      rw [← reversed, List.reverse_reverse]
    rw [reversed, ensureAll] at made
    simp only [whole] at made
    obtain ⟨outcome, middle, tried, again⟩ := Action.bind_eq_ok.mp made
    have tried := Action.attempt_eq_ok.mp tried
    split at again
    · obtain ⟨_, _, _, last⟩ := Action.bind_eq_ok.mp again
      exact ensureFolder_look filled (Action.change_eq_ok.mp last)
    · cases again
      exact ensureFolder_look filled (Action.change_eq_ok.mp tried)

theorem makeFolders_parent_grown (filled : path.segments ≠ []) (disk : Disk) :
    Grown (disk.ways path) disk (makeFolders path.parent disk).2 := by
  rw [ways_eq_stops_parent filled]
  exact makeFolders_grown path.parent disk

theorem makeNewFolder_eq_ok (filled : path.segments ≠ [])
    (made : makeNewFolder path disk = (.ok (), next)) :
    ∃ grown, Grown (disk.ways path) disk grown ∧ makeFolder path grown = .ok next := by
  obtain ⟨outcome, middle, tried, again⟩ := Action.bind_eq_ok.mp made
  have tried := Action.attempt_eq_ok.mp tried
  split at again
  · obtain ⟨_, rfl⟩ := Action.change_eq_error.mp tried
    obtain ⟨_, grown, above, last⟩ := Action.bind_eq_ok.mp again
    have parents := makeFolders_parent_grown filled middle
    rw [above] at parents
    exact ⟨grown, parents, Action.change_eq_ok.mp last⟩
  · cases again
    exact ⟨disk, .refl _ _, Action.change_eq_ok.mp tried⟩

/-- A new folder that could not be made may still leave folders above it. -/
theorem makeNewFolder_eq_error {fault : Fault} (filled : path.segments ≠ [])
    (failed : makeNewFolder path disk = (.error fault, next)) :
    Grown (disk.ways path) disk next := by
  rcases Action.bind_eq_error.mp failed with tried | ⟨outcome, middle, tried, again⟩
  · exact absurd tried Action.attempt_ne_error
  · have tried := Action.attempt_eq_ok.mp tried
    split at again
    · obtain ⟨_, rfl⟩ := Action.change_eq_error.mp tried
      have parents := makeFolders_parent_grown filled middle
      rcases Action.bind_eq_error.mp again with above | ⟨_, grown, above, last⟩
      · rw [above] at parents
        exact parents
      · rw [above] at parents
        obtain ⟨_, rfl⟩ := Action.change_eq_error.mp last
        exact parents
    · cases again
      obtain ⟨_, rfl⟩ := Action.change_eq_error.mp tried
      exact .refl _ _

/-! ### Removing and moving folders -/

/-- Another disk that differs at most at and below a location. -/
structure ChangedBelow (place : Location) (before after : Disk) : Prop where
  here : after.here = before.here
  look : ∀ location, ¬ place <+: location → after.look location = before.look location

namespace ChangedBelow

theorem refl (place : Location) (disk : Disk) : ChangedBelow place disk disk := ⟨rfl, fun _ _ => rfl⟩

theorem trans (first : ChangedBelow place disk next) (second : ChangedBelow place next after) :
    ChangedBelow place disk after :=
  ⟨second.here.trans first.here, fun location apart =>
    (second.look location apart).trans (first.look location apart)⟩

theorem of_graft {inner : View} (here : next.here = disk.here)
    (view : next.look = disk.look.graft place inner) : ChangedBelow place disk next :=
  ⟨here, fun location apart => by rw [view, View.graft_of_not_prefix _ _ apart]⟩

theorem mono {deeper : Location} (changed : ChangedBelow deeper disk next) (below : place <+: deeper) :
    ChangedBelow place disk next :=
  ⟨changed.here, fun location apart => changed.look location fun inside =>
    apart (below.trans inside)⟩

theorem file? {location : Location} (changed : ChangedBelow place disk next)
    (apart : ¬ place <+: location) : next.file? location = disk.file? location :=
  View.file?_congr (changed.look location apart)

/-- A path that does not lead through the changed part can still be followed. -/
theorem opens (changed : ChangedBelow place disk next) (opens : disk.Opens path)
    (apart : ∀ way ∈ disk.ways path, ¬ place <+: way) : next.Opens path :=
  opens.of_ways changed.here fun way passed => changed.look way (apart way passed)

end ChangedBelow

theorem emptyFolder_eq_ok (emptied : emptyFolder path disk = .ok next) :
    disk.Opens path ∧ disk.look (disk.place path) = some .folder ∧ next.here = disk.here ∧
      next.look = disk.look.graft (disk.place path) Node.empty.look := by
  obtain ⟨place, located, emptied⟩ := Fault.bind_eq_ok emptied
  obtain ⟨rfl, opens⟩ := locate_eq_ok.mp located
  split at emptied
  · rename_i entries found
    cases emptied
    refine ⟨opens, Node.look_eq_folder.mpr ⟨entries, found⟩, rfl, ?_⟩
    show (Node.modifyAt _ _ _).look = _
    rw [Node.look_modifyAt, found]
    rfl
  · contradiction
  · contradiction

theorem Opens.emptyFolder (opens : disk.Opens path)
    (present : disk.look (disk.place path) = some .folder) :
    ∃ next, Disk.emptyFolder path disk = .ok next := by
  obtain ⟨entries, found⟩ := Node.look_eq_folder.mp present
  simp [Disk.emptyFolder, opens.locate, found, bind, Except.bind, pure, Except.pure]

/-- An empty folder is told by its view. -/
theorem at?_eq_empty (view : ∀ rest, disk.look (place ++ rest) = Node.empty.look rest) :
    disk.root.at? place = some (.folder []) := by
  have present := view []
  rw [List.append_nil] at present
  obtain ⟨entries, found⟩ := Node.look_eq_folder.mp present
  cases entries with
  | nil => exact found
  | cons entry entries =>
    obtain ⟨name, node⟩ := entry
    have absent : (disk.root.at? place).bind (fun node => node.look [name]) = none :=
      (Node.look_append disk.root place [name]).symm.trans (view [name])
    rw [found] at absent
    simp [Node.look, Node.at?] at absent

theorem removeFolder_eq_ok (removed : removeFolder path disk = .ok next) :
    disk.Opens path ∧ disk.place path ≠ [] ∧ next.here = disk.here ∧
      next.look = disk.look.graft (disk.place path) .nothing := by
  obtain ⟨place, located, removed⟩ := Fault.bind_eq_ok removed
  obtain ⟨rfl, opens⟩ := locate_eq_ok.mp located
  split at removed
  · rename_i name found last
    cases removed
    have split := List.dropLast_append_getLast? name last
    refine ⟨opens, fun top => ?_, rfl, ?_⟩
    · rw [top] at last
      contradiction
    · show (Node.removeAt _ _ _).look = _
      rw [Node.look_removeAt, split]
  all_goals contradiction

theorem Opens.removeFolder (opens : disk.Opens path) (deep : disk.place path ≠ [])
    (view : ∀ rest, disk.look (disk.place path ++ rest) = Node.empty.look rest) :
    ∃ next, Disk.removeFolder path disk = .ok next := by
  have found := at?_eq_empty view
  have last := List.getLast?_eq_some_getLast deep
  simp [Disk.removeFolder, opens.locate, found, last, bind, Except.bind, pure, Except.pure]

theorem removeTree_changed (path : Path) (disk : Disk) :
    ChangedBelow (disk.place path) disk (removeTree path disk).2 := by
  have emptied : Action.Keeps (ChangedBelow (disk.place path) disk) (.change (emptyFolder path)) :=
    .change fun before after changed made => by
      obtain ⟨_, _, here, view⟩ := emptyFolder_eq_ok made
      rw [place_eq_of_here changed.here] at view
      exact changed.trans (.of_graft here view)
  have removed : Action.Keeps (ChangedBelow (disk.place path) disk) (.change (removeFolder path)) :=
    .change fun before after changed made => by
      obtain ⟨_, _, here, view⟩ := removeFolder_eq_ok made
      rw [place_eq_of_here changed.here] at view
      exact changed.trans (.of_graft here view)
  exact Action.Keeps.bind emptied (fun _ => removed) disk (.refl _ _)

theorem removeTree_eq_ok (removed : removeTree path disk = (.ok (), next)) :
    disk.Opens path ∧ disk.place path ≠ [] ∧ disk.look (disk.place path) = some .folder ∧
      next.here = disk.here ∧ next.look = disk.look.graft (disk.place path) .nothing := by
  obtain ⟨_, middle, emptied, removed⟩ := Action.bind_eq_ok.mp removed
  obtain ⟨opens, present, here, bare⟩ := emptyFolder_eq_ok (Action.change_eq_ok.mp emptied)
  obtain ⟨_, deep, last, view⟩ := removeFolder_eq_ok (Action.change_eq_ok.mp removed)
  rw [place_eq_of_here here] at deep view
  rw [bare, View.graft_graft] at view
  exact ⟨opens, deep, present, last.trans here, view⟩

theorem Opens.removeTree (opens : disk.Opens path) (deep : disk.place path ≠ [])
    (present : disk.look (disk.place path) = some .folder)
    (apart : ∀ way ∈ disk.ways path, ¬ disk.place path <+: way) :
    ∃ next, Disk.removeTree path disk = (.ok (), next) := by
  obtain ⟨middle, emptied⟩ := opens.emptyFolder present
  obtain ⟨_, _, here, bare⟩ := emptyFolder_eq_ok emptied
  have same : middle.place path = disk.place path := place_eq_of_here here
  have still := (ChangedBelow.of_graft here bare).opens opens apart
  have view (rest : Location) :
      middle.look (middle.place path ++ rest) = Node.empty.look rest := by
    rw [same, bare, View.graft_append]
  obtain ⟨next, removed⟩ := still.removeFolder (same ▸ deep) view
  exact ⟨next, Action.bind_eq_ok.mpr
    ⟨(), middle, Action.change_eq_ok.mpr emptied, Action.change_eq_ok.mpr removed⟩⟩

/-- Moving a folder to another place where nothing is in its way. -/
theorem rename_eq_ok {source target : Path} (filled : target.segments ≠ [])
    (differs : disk.place source ≠ disk.place target)
    (moved : rename source target disk = .ok next) :
    disk.Opens source ∧ disk.Opens target ∧ next.here = disk.here ∧
      next.look = (disk.look.graft (disk.place source) .nothing).graft (disk.place target)
        fun rest => disk.look (disk.place source ++ rest) := by
  obtain ⟨old, located, moved⟩ := Fault.bind_eq_ok moved
  obtain ⟨rfl, opensSource⟩ := locate_eq_ok.mp located
  obtain ⟨new, located, moved⟩ := Fault.bind_eq_ok moved
  obtain ⟨rfl, opensTarget⟩ := locate_eq_ok.mp located
  split at moved
  · contradiction
  · rename_i node oldName newName found oldLast newLast
    rw [if_neg differs] at moved
    split at moved
    · contradiction
    · rename_i outside
      obtain ⟨_, _, moved⟩ := Fault.bind_eq_ok moved
      cases moved
      have oldSplit := List.dropLast_append_getLast? oldName oldLast
      have newSplit := List.dropLast_append_getLast? newName newLast
      refine ⟨opensSource, opensTarget, rfl, ?_⟩
      -- The folder that takes it up is not below the folder that is taken away.
      have apart : ¬ disk.place source <+: (disk.place target).dropLast := fun inside =>
        outside (List.isPrefixOf_iff_prefix.mpr (inside.trans (List.dropLast_prefix _)))
      have parent := opensTarget.look_parent filled newSplit.symm
      have removed := Node.look_removeAt disk.root (disk.place source).dropLast oldName
      rw [oldSplit] at removed
      have kept : (disk.root.removeAt (disk.place source).dropLast oldName).look
          (disk.place target).dropLast = some .folder := by
        rw [removed, View.graft_of_not_prefix _ _ apart]
        exact parent
      show (Node.insertAt _ _ _ _).look = _
      rw [Node.look_insertAt newName node kept, removed, newSplit]
      congr 1
      funext rest
      have whole := Node.look_append disk.root (disk.place source) rest
      rw [found] at whole
      exact whole.symm
  · contradiction

theorem Opens.rename {source target : Path} (opensSource : disk.Opens source)
    (opensTarget : disk.Opens target) (present : disk.look (disk.place source) ≠ none)
    (vacant : disk.look (disk.place target) = none) (deepSource : disk.place source ≠ [])
    (deepTarget : disk.place target ≠ [])
    (outside : ¬ disk.place source <+: disk.place target) :
    ∃ next, Disk.rename source target disk = .ok next := by
  have differs : disk.place source ≠ disk.place target := fun same =>
    outside (same ▸ List.prefix_rfl)
  have inside : (disk.place source).isPrefixOf (disk.place target) ≠ true := fun inside =>
    outside (List.isPrefixOf_iff_prefix.mp inside)
  have oldLast := List.getLast?_eq_some_getLast deepSource
  have newLast := List.getLast?_eq_some_getLast deepTarget
  cases found : disk.root.at? (disk.place source) with
  | none => exact absurd (Node.look_eq_none.mpr found) present
  | some node =>
    simp [Disk.rename, opensSource.locate, opensTarget.locate, found, oldLast, newLast, differs,
      inside, Node.look_eq_none.mp vacant, checkVacant, bind, Except.bind, pure, Except.pure]

/-! ### Copying -/

/-- A copy makes the folders on the way to its target, and then changes the target alone. -/
theorem copyTree_changed (source target : Path) (disk : Disk) :
    ∃ grown, Grown (disk.stops target) disk grown ∧
      ChangedBelow (disk.place target) grown (copyTree source target disk).2 := by
  have unchanged : Grown (disk.stops target) disk disk := .refl _ _
  unfold copyTree
  rw [Action.bind_of_ok (rfl : Action.get disk = (.ok disk, disk))]
  -- Nothing is written until the source is read and the folders are there.
  cases located : disk.locate source with
  | error fault => exact ⟨disk, unchanged, .refl _ _⟩
  | ok old =>
    rw [Action.bind_of_ok (rfl : Action.lift (.ok old) disk = (.ok old, disk))]
    cases found : disk.node source with
    | error fault => exact ⟨disk, unchanged, .refl _ _⟩
    | ok copied =>
      rw [Action.bind_of_ok (rfl : Action.lift (.ok copied) disk = (.ok copied, disk))]
      have growth := makeFolders_grown target disk
      cases making : makeFolders target disk with
      | mk outcome grown =>
        rw [making] at growth
        refine ⟨grown, growth, ?_⟩
        cases outcome with
        | error fault =>
          rw [Action.bind_of_error making]
          exact .refl _ _
        | ok _ =>
          rw [Action.bind_of_ok making,
            Action.bind_of_ok (rfl : Action.get grown = (.ok grown, grown))]
          cases reached : grown.locate target with
          | error fault => exact .refl _ _
          | ok new =>
            rw [Action.bind_of_ok (rfl : Action.lift (.ok new) grown = (.ok new, grown))]
            obtain ⟨rfl, opens⟩ := locate_eq_ok.mp reached
            split
            · exact .refl _ _
            · rw [← place_eq_of_here growth.here]
              -- The one change of the tree is the graft at the place of the target.
              refine Action.Keeps.bind (.modify fun s changed => ?_) (fun _ => ?_) grown (.refl _ _)
              · exact changed.trans (.of_graft rfl (Node.look_modifyAt _ _ _))
              · split
                · exact .pure _
                · exact .fail _

end Disk

end StaticSite
