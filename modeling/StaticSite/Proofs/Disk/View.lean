import Mathlib.Data.List.Infix
import StaticSite.Disk.Node

/-!
# Views of file trees

The view of a tree says what stands at each location. A change of a tree is a change of its view at
and below one location: `View.graft` puts another view there and leaves all other locations alone.
-/

namespace StaticSite

/-- What stands at a location, apart from what is below it. -/
inductive Kind where
  | folder
  | file (bytes : List UInt8)

abbrev View := Location → Option Kind

/-- The bytes of the file at a location. -/
def View.file? (view : View) (location : Location) : Option (List UInt8) :=
  match view location with
  | some (.file bytes) => some bytes
  | _ => none

/-- A view with another one at and below a location. -/
def View.graft (view : View) (place : Location) (inner : View) : View := fun location =>
  if place <+: location then inner (location.drop place.length) else view location

/-- Nothing anywhere. -/
def View.nothing : View := fun _ => none

namespace View

theorem file?_congr {view other : View} {here there : Location} (same : view here = other there) :
    view.file? here = other.file? there := by
  unfold file?
  rw [same]

theorem file?_of_folder {view : View} {location : Location}
    (folder : view location = some .folder) : view.file? location = none := by
  unfold file?
  rw [folder]

theorem file?_of_none {view : View} {location : Location} (absent : view location = none) :
    view.file? location = none := by
  unfold file?
  rw [absent]

theorem graft_append (view : View) (place rest : Location) (inner : View) :
    view.graft place inner (place ++ rest) = inner rest := by
  simp [graft]

theorem graft_self (view : View) (place : Location) (inner : View) :
    view.graft place inner place = inner [] := by
  have whole := graft_append view place [] inner
  rwa [List.append_nil] at whole

theorem graft_of_not_prefix {place location : Location} (view inner : View)
    (apart : ¬ place <+: location) : view.graft place inner location = view location :=
  if_neg apart

theorem graft_graft (view first second : View) (place : Location) :
    (view.graft place first).graft place second = view.graft place second := by
  funext location
  unfold graft
  split <;> rfl

end View

namespace Node

def kind : Node → Kind
  | .file bytes => .file bytes
  | .folder _ => .folder

def look (root : Node) : View := fun location => (root.at? location).map kind

/-! ### Looking further -/

theorem at?_append (root : Node) (place rest : Location) :
    root.at? (place ++ rest) = (root.at? place).bind fun node => node.at? rest := by
  induction place generalizing root with
  | nil => rfl
  | cons name place ih =>
    cases root with
    | file bytes => rfl
    | folder entries =>
      simp only [List.cons_append, at?]
      cases entries.lookup name with
      | none => rfl
      | some inner => exact ih inner

theorem at?_cons_eq_some {root node : Node} {name : String} {rest : Location} :
    root.at? (name :: rest) = some node ↔ ∃ entries inner, root = .folder entries ∧
      entries.lookup name = some inner ∧ inner.at? rest = some node := by
  cases root with
  | file bytes => simp [at?]
  | folder entries =>
    simp only [at?, folder.injEq]
    cases found : entries.lookup name <;> simp [found]

theorem look_eq_folder {root : Node} {place : Location} :
    root.look place = some .folder ↔ ∃ entries, root.at? place = some (.folder entries) := by
  unfold look
  cases found : root.at? place with
  | none => simp
  | some node => cases node <;> simp [kind]

theorem look_eq_file {root : Node} {place : Location} {bytes : List UInt8} :
    root.look place = some (.file bytes) ↔ root.at? place = some (.file bytes) := by
  unfold look
  cases found : root.at? place with
  | none => simp
  | some node => cases node <;> simp [kind]

theorem look_eq_none {root : Node} {place : Location} :
    root.look place = none ↔ root.at? place = none := by
  simp [look]

theorem look_append (root : Node) (place rest : Location) :
    root.look (place ++ rest) = (root.at? place).bind fun node => node.look rest := by
  unfold look
  rw [at?_append]
  cases root.at? place <;> rfl

/-- Only folders have something below them. -/
theorem look_below {root : Node} {place : Location} {name : String} {rest : Location}
    (other : root.look place ≠ some .folder) : root.look (place ++ name :: rest) = none := by
  rw [look_append]
  cases found : root.at? place with
  | none => rfl
  | some node =>
    cases node with
    | file bytes => rfl
    | folder entries => exact absurd (look_eq_folder.mpr ⟨entries, found⟩) other

theorem look_of_below {root : Node} {place : Location} {name : String} {rest : Location}
    (present : root.look (place ++ name :: rest) ≠ none) : root.look place = some .folder := by
  by_contra other
  exact present (look_below other)

theorem look_below_none {root : Node} {place : Location} (absent : root.look place = none)
    (rest : Location) : root.look (place ++ rest) = none := by
  rw [look_append, look_eq_none.mp absent]
  rfl

/-! ### Changing a tree -/

theorem lookup_map_entry (name other : String) (change : Node → Node) (entries : Entries) :
    (entries.map fun entry => if entry.1 = name then (name, change entry.2) else entry).lookup other
      = if other = name then (entries.lookup other).map change else entries.lookup other := by
  induction entries with
  | nil => simp
  | cons entry entries ih =>
    obtain ⟨key, node⟩ := entry
    by_cases same : key = name
    · subst same
      by_cases found : other = key
      · subst found
        simp
      · have differs : (other == key) = false := by simpa using found
        simp only [List.map_cons, if_true, List.lookup_cons, differs]
        exact ih
    · by_cases found : other = key
      · subst found
        simp [same]
      · have differs : (other == key) = false := by simpa using found
        simp only [List.map_cons, if_neg same, List.lookup_cons, differs]
        exact ih

theorem at?_modifyAt_append (change : Node → Node) (place rest : Location) (root : Node) :
    (modifyAt change place root).at? (place ++ rest)
      = (root.at? place).bind fun node => (change node).at? rest := by
  induction place generalizing root with
  | nil => rfl
  | cons name place ih =>
    cases root with
    | file bytes => rfl
    | folder entries =>
      simp only [modifyAt, List.cons_append, at?, lookup_map_entry, if_true]
      cases entries.lookup name with
      | none => rfl
      | some inner => exact ih inner

theorem look_modifyAt_of_not_prefix (change : Node → Node) {place location : Location}
    (root : Node) (apart : ¬ place <+: location) :
    (modifyAt change place root).look location = root.look location := by
  induction place generalizing root location with
  | nil => exact absurd (List.nil_prefix) apart
  | cons name place ih =>
    cases root with
    | file bytes => rfl
    | folder entries =>
      cases location with
      | nil => rfl
      | cons other location =>
        simp only [look, modifyAt, at?, lookup_map_entry]
        by_cases same : other = name
        · subst same
          have inner : ¬ place <+: location := fun inside =>
            apart ((List.prefix_cons_inj other).mpr inside)
          rw [if_pos rfl]
          cases entries.lookup other with
          | none => rfl
          | some node => exact ih node inner
        · rw [if_neg same]

/-- A change of a node changes nothing elsewhere. -/
theorem look_modifyAt (change : Node → Node) (place : Location) (root : Node) :
    (modifyAt change place root).look
      = root.look.graft place fun rest => (root.at? place).bind fun node => (change node).look rest := by
  funext location
  by_cases inside : place <+: location
  · obtain ⟨rest, rfl⟩ := inside
    rw [View.graft_append, look, at?_modifyAt_append]
    cases root.at? place <;> rfl
  · rw [View.graft_of_not_prefix _ _ inside, look_modifyAt_of_not_prefix change root inside]

theorem lookup_setEntry (name other : String) (node : Node) (entries : Entries) :
    (setEntry name node entries).lookup other
      = if other = name then some node else entries.lookup other := by
  induction entries with
  | nil => by_cases same : other = name <;> simp [setEntry, same]
  | cons entry entries ih =>
    obtain ⟨key, inner⟩ := entry
    unfold setEntry
    by_cases taken : key = name
    · subst taken
      by_cases same : other = key
      · simp [same]
      · have differs : (other == key) = false := by simpa using same
        simp only [if_true, List.lookup_cons, differs, if_neg same]
    · rw [if_neg taken, List.lookup_cons, List.lookup_cons, ih]
      by_cases same : other = key
      · subst same
        simp [taken]
      · have differs : (other == key) = false := by simpa using same
        simp [differs]

theorem lookup_dropEntry (name other : String) (entries : Entries) :
    (dropEntry name entries).lookup other = if other = name then none else entries.lookup other := by
  induction entries with
  | nil => by_cases same : other = name <;> simp [dropEntry, same]
  | cons entry entries ih =>
    obtain ⟨key, inner⟩ := entry
    unfold dropEntry at ih ⊢
    by_cases taken : key = name
    · subst taken
      rw [List.filter_cons_of_neg (by simp), ih]
      by_cases same : other = key
      · simp [same]
      · have differs : (other == key) = false := by simpa using same
        simp only [List.lookup_cons, differs, if_neg same]
    · rw [List.filter_cons_of_pos (by simpa using taken), List.lookup_cons, List.lookup_cons, ih]
      by_cases same : other = key
      · subst same
        simp [taken]
      · have differs : (other == key) = false := by simpa using same
        simp [differs]

theorem graft_snoc {folder location : Location} {name : String} (view inner : View)
    (inside : folder <+: location) :
    view.graft (folder ++ [name]) inner location
      = match location.drop folder.length with
        | [] => view folder
        | other :: rest => if other = name then inner rest else view (folder ++ other :: rest) := by
  obtain ⟨rest, rfl⟩ := inside
  rw [List.drop_left]
  cases rest with
  | nil =>
    rw [List.append_nil]
    -- The folder itself is above what is grafted in.
    refine View.graft_of_not_prefix view inner fun inside => ?_
    have longer := inside.length_le
    simp only [List.length_append, List.length_singleton] at longer
    omega
  | cons other rest =>
    by_cases same : other = name
    · subst same
      have split : folder ++ other :: rest = (folder ++ [other]) ++ rest := by simp
      rw [split, View.graft_append]
      simp
    · have apart : ¬ folder ++ [name] <+: folder ++ other :: rest := fun inside => by
        rw [List.prefix_append_right_inj, List.cons_prefix_cons] at inside
        exact same inside.1.symm
      rw [View.graft_of_not_prefix view inner apart]
      simp [same]

theorem not_prefix_snoc {folder location : Location} {name : String}
    (apart : ¬ folder <+: location) : ¬ folder ++ [name] <+: location :=
  fun inside => apart ((List.prefix_append folder [name]).trans inside)

theorem look_insertAt {root : Node} {folder : Location} (name : String) (node : Node)
    (here : root.look folder = some .folder) :
    (root.insertAt folder name node).look = root.look.graft (folder ++ [name]) node.look := by
  obtain ⟨entries, found⟩ := look_eq_folder.mp here
  funext location
  unfold insertAt
  rw [look_modifyAt]
  -- Only what stands below the folder under this name can change.
  by_cases inside : folder <+: location
  · rw [graft_snoc _ _ inside]
    obtain ⟨rest, rfl⟩ := inside
    rw [View.graft_append, found, List.drop_left]
    cases rest with
    | nil => exact here.symm
    | cons other rest =>
      simp only [Option.bind_some, look, at?, lookup_setEntry]
      by_cases same : other = name
      · rw [if_pos same, if_pos same]
      · rw [if_neg same, if_neg same, at?_append, found]
        rfl
  · rw [View.graft_of_not_prefix _ _ inside, View.graft_of_not_prefix _ _ (not_prefix_snoc inside)]

/-- Nothing can be put where there is no folder. -/
theorem look_insertAt_of_not_folder {root : Node} {folder : Location} (name : String) (node : Node)
    (other : root.look folder ≠ some .folder) :
    (root.insertAt folder name node).look = root.look := by
  funext location
  unfold insertAt
  rw [look_modifyAt]
  by_cases inside : folder <+: location
  · obtain ⟨rest, rfl⟩ := inside
    rw [View.graft_append, look_append]
    cases found : root.at? folder with
    | none => rfl
    | some node =>
      cases node with
      | file bytes => rfl
      | folder entries => exact absurd (look_eq_folder.mpr ⟨entries, found⟩) other
  · rw [View.graft_of_not_prefix _ _ inside]

theorem look_removeAt (root : Node) (folder : Location) (name : String) :
    (root.removeAt folder name).look = root.look.graft (folder ++ [name]) .nothing := by
  funext location
  unfold removeAt
  rw [look_modifyAt]
  -- Only what stands below the folder can change, and there only if the folder is one.
  by_cases inside : folder <+: location
  · rw [graft_snoc _ _ inside]
    obtain ⟨rest, rfl⟩ := inside
    rw [View.graft_append, List.drop_left]
    cases found : root.at? folder with
    | none =>
      have absent := look_below_none (look_eq_none.mpr found)
      cases rest with
      | nil =>
        have here := absent []
        rw [List.append_nil] at here
        exact here.symm
      | cons other rest =>
        dsimp only
        by_cases same : other = name
        · rw [if_pos same]
          rfl
        · rw [if_neg same, absent]
          rfl
    | some node =>
      cases node with
      | file bytes =>
        have here : root.look folder = some (.file bytes) := look_eq_file.mpr found
        cases rest with
        | nil => exact here.symm
        | cons other rest =>
          have absent : root.look (folder ++ other :: rest) = none :=
            look_below (by rw [here]; exact nofun)
          dsimp only
          by_cases same : other = name
          · rw [if_pos same]
            rfl
          · rw [if_neg same, absent]
            rfl
      | folder entries =>
        cases rest with
        | nil => exact (look_eq_folder.mpr ⟨entries, found⟩).symm
        | cons other rest =>
          simp only [Option.bind_some, look, at?, lookup_dropEntry]
          by_cases same : other = name
          · rw [if_pos same, if_pos same]
            rfl
          · rw [if_neg same, if_neg same, at?_append, found]
            rfl
  · rw [View.graft_of_not_prefix _ _ inside, View.graft_of_not_prefix _ _ (not_prefix_snoc inside)]

end Node

end StaticSite
