import StaticSite.Proofs.Component.Pages
import StaticSite.Proofs.Json.Values
import StaticSite.Proofs.Value.Lookup

/-!
# What is discovered

Each markup file at or below a searched folder gets a component, with the configuration that stands
beside it. A configuration file that is not there, is a folder, is no JSON or holds no object counts
as an empty object. Two others are not caught, and one of them beside one markup file stops the
whole search: a file whose bytes are no text, and one with an integer too long to be read.
-/

namespace StaticSite

open StaticSite.Text

namespace Node

mutual

/-- Induction on trees: what holds of all entries of a folder holds of the folder. -/
theorem induction {motive : Node → Prop} (file : ∀ bytes, motive (.file bytes))
    (folder : ∀ entries, (∀ entry ∈ entries, motive entry.2) → motive (.folder entries)) :
    (node : Node) → motive node
  | .file bytes => file bytes
  | .folder entries => folder entries (induction_entries file folder entries)

theorem induction_entries {motive : Node → Prop} (file : ∀ bytes, motive (.file bytes))
    (folder : ∀ entries, (∀ entry ∈ entries, motive entry.2) → motive (.folder entries)) :
    (entries : List (String × Node)) → ∀ entry ∈ entries, motive entry.2
  | [] => nofun
  | (_, node) :: rest => List.forall_mem_cons.mpr
    ⟨induction file folder node, induction_entries file folder rest⟩

end

/-- A folder with its entries, at or below a node that a path leads to. -/
inductive HasFolder : Path → Node → Path → Entries → Prop where
  | here (way : Path) (entries : Entries) : HasFolder way (.folder entries) way entries
  | deeper {way folder : Path} {name : String} {inner : Node} {entries found : Entries}
      (listed : (name, inner) ∈ entries) (further : HasFolder (way.child name) inner folder found) :
      HasFolder way (.folder entries) folder found

end Node

namespace Component

open Node

/-! ### Configurations -/

/-- The configuration that stands in a folder. -/
inductive Configures (entries : Entries) : Mapping.Entries → Prop where
  | missing (absent : entries.lookup configFile = none) : Configures entries []
  | folder {inner : Entries} (found : entries.lookup configFile = some (.folder inner)) :
      Configures entries []
  | malformed {bytes : List UInt8} {s : List Char}
      (found : entries.lookup configFile = some (.file bytes)) (text : decodeUtf8? bytes = some s)
      (read : Json.read (normalizeLines s) = .error .malformedJson) : Configures entries []
  | noObject {bytes : List UInt8} {s : List Char} {value : Value}
      (found : entries.lookup configFile = some (.file bytes)) (text : decodeUtf8? bytes = some s)
      (read : Json.read (normalizeLines s) = .ok value)
      (other : ∀ config, value ≠ .mapping config) : Configures entries []
  | object {bytes : List UInt8} {s : List Char} {config : Mapping.Entries}
      (found : entries.lookup configFile = some (.file bytes)) (text : decodeUtf8? bytes = some s)
      (read : Json.read (normalizeLines s) = .ok (.mapping config)) : Configures entries config

/-- A configuration file that stops the search. -/
inductive Stops (entries : Entries) : Prop where
  | undecodable {bytes : List UInt8} (found : entries.lookup configFile = some (.file bytes))
      (text : decodeUtf8? bytes = none)
  | tooLong {bytes : List UInt8} {s : List Char}
      (found : entries.lookup configFile = some (.file bytes)) (text : decodeUtf8? bytes = some s)
      (read : Json.read (normalizeLines s) = .error .wrongValue)

theorem readConfig_of_configures {entries : Entries} {config : Mapping.Entries} (folder : Path)
    (configures : Configures entries config) :
    (readConfig folder entries).outcome = .ok config := by
  cases configures with
  | missing absent =>
    rw [readConfig, absent]
    rfl
  | folder found =>
    rw [readConfig, found]
    rfl
  | malformed found text read =>
    simp only [readConfig, found, Node.text, text, Except.bind, read]
    rfl
  | @noObject bytes s value found text read other =>
    simp only [readConfig, found, Node.text, text, Except.bind, read]
    cases value with
    | mapping config => exact absurd rfl (other config)
    | _ => rfl
  | object found text read =>
    simp only [readConfig, found, Node.text, text, Except.bind, read]
    rfl

theorem readConfig_of_stops {entries : Entries} (folder : Path) (stops : Stops entries) :
    ∃ fault, (readConfig folder entries).outcome = .error fault := by
  cases stops with
  | undecodable found text =>
    exact ⟨.undecodableText, by simp only [readConfig, found, Node.text, text, Except.bind]; rfl⟩
  | tooLong found text read =>
    exact ⟨.wrongValue, by simp only [readConfig, found, Node.text, text, Except.bind, read]; rfl⟩

/-- Every content of a folder either gives a configuration or stops the search. -/
theorem configures_or_stops (entries : Entries) :
    (∃ config, Configures entries config) ∨ Stops entries := by
  cases found : entries.lookup configFile with
  | none => exact .inl ⟨[], .missing found⟩
  | some node =>
    cases node with
    | folder inner => exact .inl ⟨[], .folder found⟩
    | file bytes =>
      cases text : decodeUtf8? bytes with
      | none => exact .inr (.undecodable found text)
      | some s =>
        -- Reading fails for one of two reasons, and only the first of them is caught.
        have ends := Json.read_ends (normalizeLines s)
        cases read : Json.read (normalizeLines s) with
        | error fault =>
          rw [read] at ends
          rcases ends.fault_eq with rfl | rfl
          · exact .inl ⟨[], .malformed found text read⟩
          · exact .inr (.tooLong found text read)
        | ok value =>
          by_cases object : ∃ config, value = .mapping config
          · obtain ⟨config, rfl⟩ := object
            exact .inl ⟨config, .object found text read⟩
          · exact .inl ⟨[], .noObject found text read fun config same => object ⟨config, same⟩⟩

theorem readConfig_ok_iff {folder : Path} {entries : Entries} {config : Mapping.Entries} :
    (readConfig folder entries).outcome = .ok config ↔ Configures entries config := by
  constructor
  · intro read
    rcases configures_or_stops entries with ⟨other, configures⟩ | stops
    · have same := readConfig_of_configures folder configures
      rw [read] at same
      cases same
      exact configures
    · obtain ⟨fault, failed⟩ := readConfig_of_stops folder stops
      rw [read] at failed
      contradiction
  · exact readConfig_of_configures folder

theorem readConfig_succeeds_iff {folder : Path} {entries : Entries} :
    (∃ config, (readConfig folder entries).outcome = .ok config) ↔ ¬ Stops entries := by
  constructor
  · rintro ⟨config, read⟩ stops
    obtain ⟨fault, failed⟩ := readConfig_of_stops folder stops
    rw [read] at failed
    contradiction
  · intro goes
    obtain ⟨config, configures⟩ := (configures_or_stops entries).resolve_right goes
    exact ⟨config, readConfig_ok_iff.mpr configures⟩

/-! ### Bases -/

/-- What the base of a component becomes; nothing else of its configuration changes. -/
structure Based (name : String) (config resolved : Mapping.Entries) : Prop where
  root : name ∈ rootBases → Mapping.get? "extends" resolved = some .null
  default : name ∉ rootBases → (Mapping.get? "extends" config = none ∨
    Mapping.get? "extends" config = some (.str "")) →
    Mapping.get? "extends" resolved = some (.str "BaseComponent")
  given {value : Value} : name ∉ rootBases → Mapping.get? "extends" config = some value →
    value ≠ .str "" → Mapping.get? "extends" resolved = some value
  others {key : String} : key ≠ "extends" → Mapping.get? key resolved = Mapping.get? key config

theorem get?_insertName (key name : String) (value : Value) (config : Mapping.Entries) :
    Mapping.get? key (Mapping.insertName name value config)
      = if name = key then some value else Mapping.get? key config := by
  rw [Mapping.insertName, Mapping.get?_insert]
  simp [Value.text?]

theorem resolveBase_based (name : String) (config : Mapping.Entries) :
    Based name config (resolveBase name config) := by
  have inserted (value : Value) {key : String} (other : key ≠ "extends") :
      Mapping.get? key (Mapping.insertName "extends" value config) = Mapping.get? key config := by
    rw [get?_insertName, if_neg other.symm]
  by_cases root : name ∈ rootBases
  · have resolved : resolveBase name config = Mapping.insertName "extends" .null config := by
      rw [resolveBase, if_pos (List.elem_eq_true_of_mem root)]
    rw [resolved]
    refine ⟨fun _ => ?_, fun other => absurd root other, fun other => absurd root other, inserted _⟩
    rw [get?_insertName, if_pos rfl]
  have plain : rootBases.elem name = false := by simpa using root
  -- A component that is no root base keeps its base, unless it names none.
  by_cases named : ∃ value, Mapping.get? "extends" config = some value ∧ value ≠ .str ""
  · obtain ⟨value, given, nonempty⟩ := named
    have resolved : resolveBase name config = config := by
      rw [resolveBase, plain, given]
      split <;> simp_all
    rw [resolved]
    refine ⟨fun other => absurd other root, fun _ => ?_, fun _ given _ => given, fun _ => rfl⟩
    rw [given]
    rintro (absent | empty)
    · contradiction
    · exact absurd (Option.some.inj empty) nonempty
  · have lacking : Mapping.get? "extends" config = none ∨
        Mapping.get? "extends" config = some (.str "") := by
      cases given : Mapping.get? "extends" config with
      | none => exact .inl rfl
      | some value =>
        have empty : value = .str "" := by
          by_contra other
          exact named ⟨value, given, other⟩
        exact .inr (congrArg some empty)
    have resolved : resolveBase name config
        = Mapping.insertName "extends" (.str defaultBase) config := by
      rw [resolveBase, plain]
      rcases lacking with absent | empty
      · rw [absent]
        rfl
      · rw [empty]
        rfl
    rw [resolved]
    refine ⟨fun other => absurd other root, fun _ _ => ?_,
      fun _ given nonempty => absurd ⟨_, given, nonempty⟩ named, inserted _⟩
    rw [get?_insertName, if_pos rfl]
    rfl

/-! ### Files and folders -/

/-- A component is that of a markup file of a folder. -/
structure IsOf (folder : Path) (entries : Entries) (name : String) (component : Component) :
    Prop where
  folder_eq : component.folder = folder
  file_eq : component.entryFile = name ++ ".html"
  name_eq : component.name = if name = "index" then folder.name else name
  configured : ∃ config, Configures entries config ∧
    component.config = resolveBase component.name config ∧
    Based component.name config component.config

/-- A folder with a markup file. -/
def HasMarkups (entries : Entries) : Prop := ∃ name, name ≠ "" ∧ HasMarkup name entries

theorem ofFile_isOf {folder below : Path} {entries : Entries} {name : String}
    {component : Component} (nonempty : name ≠ "")
    (made : (ofFile folder below entries (name ++ ".html")).outcome = .ok component) :
    IsOf folder entries name component := by
  obtain ⟨config, read, last⟩ := Reported.bind_eq_ok made
  cases last
  have index : name ++ ".html" = indexFile ↔ name = "index" := by
    rw [show indexFile = "index" ++ ".html" by decide]
    exact String.append_left_inj ".html"
  refine ⟨rfl, rfl, ?_, config, readConfig_ok_iff.mp read, rfl, resolveBase_based _ _⟩
  simp only [index, stem_html nonempty]

theorem ofFile_succeeds_iff {folder below : Path} {entries : Entries} {file : String} :
    (∃ component, (ofFile folder below entries file).outcome = .ok component) ↔
      ¬ Stops entries := by
  rw [← readConfig_succeeds_iff]
  constructor
  · rintro ⟨component, made⟩
    obtain ⟨config, read, -⟩ := Reported.bind_eq_ok made
    exact ⟨config, read⟩
  · rintro ⟨config, read⟩
    unfold ofFile
    simp only [Reported.outcome_bind, read]
    exact ⟨_, rfl⟩

theorem mem_markups {entries : Entries} {entry : String × Node} :
    entry ∈ byName (entries.filter isMarkupFile) ↔
      ∃ name bytes, name ≠ "" ∧ (name ++ ".html", Node.file bytes) ∈ entries ∧
        entry = (name ++ ".html", .file bytes) := by
  rw [(byName_perm _).mem_iff, List.mem_filter, isMarkupFile_iff]
  constructor
  · rintro ⟨inside, name, bytes, nonempty, rfl⟩
    exact ⟨name, bytes, nonempty, inside, rfl⟩
  · rintro ⟨name, bytes, nonempty, inside, rfl⟩
    exact ⟨inside, name, bytes, nonempty, rfl⟩

/-- The files of a folder all have its configuration. -/
theorem inFolder_succeeds_iff {folder below : Path} {entries : Entries} :
    (∃ own, (inFolder folder below entries).outcome = .ok own) ↔
      (HasMarkups entries → ¬ Stops entries) := by
  rw [inFolder, Reported.mapM_succeeds_iff]
  simp only [ofFile_succeeds_iff]
  constructor
  · rintro each ⟨name, nonempty, bytes, listed⟩
    exact each _ (mem_markups.mpr ⟨name, bytes, nonempty, listed, rfl⟩)
  · intro goes entry inside
    obtain ⟨name, bytes, nonempty, listed, -⟩ := mem_markups.mp inside
    exact goes ⟨name, nonempty, bytes, listed⟩

/-- Components are those of the markup files of some folders. -/
structure Lists (holds : Path → Entries → Prop) (components : List Component) : Prop where
  sound : ∀ component ∈ components, ∃ folder entries name, holds folder entries ∧ name ≠ "" ∧
    HasMarkup name entries ∧ IsOf folder entries name component
  complete : ∀ folder entries name, holds folder entries → name ≠ "" → HasMarkup name entries →
    ∃ component ∈ components, IsOf folder entries name component

namespace Lists

variable {holds other : Path → Entries → Prop} {components others : List Component}

theorem congr (lists : Lists holds components)
    (same : ∀ folder entries, other folder entries ↔ holds folder entries) :
    Lists other components := by
  have equal : other = holds := funext fun folder => funext fun entries => propext (same _ _)
  rwa [equal]

theorem append (first : Lists holds components) (second : Lists other others) :
    Lists (fun folder entries => holds folder entries ∨ other folder entries)
      (components ++ others) := by
  constructor
  · intro component listed
    rcases List.mem_append.mp listed with inside | inside
    · obtain ⟨folder, entries, name, here, rest⟩ := first.sound component inside
      exact ⟨folder, entries, name, .inl here, rest⟩
    · obtain ⟨folder, entries, name, here, rest⟩ := second.sound component inside
      exact ⟨folder, entries, name, .inr here, rest⟩
  · rintro folder entries name (here | here) nonempty markup
    · obtain ⟨component, inside, isOf⟩ := first.complete folder entries name here nonempty markup
      exact ⟨component, List.mem_append_left _ inside, isOf⟩
    · obtain ⟨component, inside, isOf⟩ := second.complete folder entries name here nonempty markup
      exact ⟨component, List.mem_append_right _ inside, isOf⟩

theorem perm (lists : Lists holds components) (permuted : others.Perm components) :
    Lists holds others := by
  constructor
  · intro component listed
    exact lists.sound component (permuted.mem_iff.mp listed)
  · intro folder entries name here nonempty markup
    obtain ⟨component, inside, isOf⟩ := lists.complete folder entries name here nonempty markup
    exact ⟨component, permuted.mem_iff.mpr inside, isOf⟩

/-- What parts list each is listed by all of them in a row. -/
theorem flatten {α : Type} {holds : α → Path → Entries → Prop} {items : List α}
    {each : List (List Component)}
    (parts : List.Forall₂ (fun item found => Lists (holds item) found) items each) :
    Lists (fun folder entries => ∃ item ∈ items, holds item folder entries) each.flatten := by
  induction parts with
  | nil => exact ⟨nofun, fun _ _ _ ⟨_, inside, _⟩ => absurd inside List.not_mem_nil⟩
  | cons first _ ih =>
    refine (first.append ih).congr fun folder entries => ?_
    simp only [List.mem_cons, exists_eq_or_imp]

end Lists

theorem inFolder_lists {folder below : Path} {entries : Entries} {own : List Component}
    (found : (inFolder folder below entries).outcome = .ok own) :
    Lists (fun place inside => place = folder ∧ inside = entries) own := by
  have each := Reported.mapM_eq_ok found
  constructor
  · intro component listed
    obtain ⟨entry, inside, made⟩ := exists_partner each.flip component listed
    obtain ⟨name, bytes, nonempty, here, rfl⟩ := mem_markups.mp inside
    exact ⟨folder, entries, name, ⟨rfl, rfl⟩, nonempty, ⟨bytes, here⟩, ofFile_isOf nonempty made⟩
  · rintro _ _ name ⟨rfl, rfl⟩ nonempty ⟨bytes, here⟩
    have inside := mem_markups.mpr ⟨name, bytes, nonempty, here, rfl⟩
    obtain ⟨component, listed, made⟩ := exists_partner each _ inside
    exact ⟨component, listed, ofFile_isOf nonempty made⟩

/-! ### Trees -/

theorem discoverEach_eq (folder below : Path) (entries : List (String × Node)) :
    discoverEach folder below entries = entries.map fun entry =>
      (entry.1, discoverAt (folder.child entry.1) (below.child entry.1) entry.2) := by
  induction entries with
  | nil => rfl
  | cons entry rest ih => rw [discoverEach, ih, List.map_cons]

theorem joinByName_succeeds_iff {parts : List (String × Reported (List Component))} :
    (∃ components, (joinByName parts).outcome = .ok components) ↔
      ∀ part ∈ parts, ∃ components, part.2.outcome = .ok components := by
  have order (part : String × Reported (List Component)) : part ∈ byName parts ↔ part ∈ parts :=
    (byName_perm parts).mem_iff
  have each : (∃ results, ((byName parts).mapM Prod.snd).outcome = .ok results) ↔
      ∀ part ∈ byName parts, ∃ components, part.2.outcome = .ok components :=
    Reported.mapM_succeeds_iff
  simp only [order] at each
  rw [← each]
  constructor
  · rintro ⟨components, joined⟩
    obtain ⟨results, found, -⟩ := Reported.bind_eq_ok joined
    exact ⟨results, found⟩
  · rintro ⟨results, found⟩
    unfold joinByName
    simp only [Reported.outcome_bind, found]
    exact ⟨_, rfl⟩

theorem hasFolder_file {way folder : Path} {bytes : List UInt8} {found : Entries} :
    ¬ HasFolder way (.file bytes) folder found := nofun

theorem hasFolder_folder {way folder : Path} {entries found : Entries} :
    HasFolder way (.folder entries) folder found ↔ (folder = way ∧ found = entries) ∨
      ∃ entry ∈ entries, HasFolder (way.child entry.1) entry.2 folder found := by
  constructor
  · intro has
    cases has with
    | here => exact .inl ⟨rfl, rfl⟩
    | deeper listed further => exact .inr ⟨_, listed, further⟩
  · rintro (⟨rfl, rfl⟩ | ⟨entry, listed, further⟩)
    · exact .here _ _
    · exact .deeper listed further

theorem discoverAt_succeeds_iff (node : Node) : ∀ {way below : Path},
    (∃ components, (discoverAt way below node).outcome = .ok components) ↔
      ∀ folder entries, HasFolder way node folder entries → HasMarkups entries →
        ¬ Stops entries := by
  induction node using Node.induction with
  | file bytes =>
    intro way below
    exact ⟨fun _ _ _ has => absurd has hasFolder_file, fun _ => ⟨[], by rw [discoverAt]; rfl⟩⟩
  | folder entries ih =>
    intro way below
    -- The search goes on in the folders below only when the folder itself did not stop it.
    have step : (∃ components, (discoverAt way below (.folder entries)).outcome = .ok components) ↔
        (∃ own, (inFolder way below entries).outcome = .ok own) ∧
        ∃ others, (joinByName (discoverEach way below entries)).outcome = .ok others := by
      rw [discoverAt]
      constructor
      · rintro ⟨components, found⟩
        obtain ⟨own, first, second⟩ := Reported.bind_eq_ok found
        obtain ⟨others, joined, -⟩ := Reported.bind_eq_ok second
        exact ⟨⟨own, first⟩, others, joined⟩
      · rintro ⟨⟨own, first⟩, others, joined⟩
        refine ⟨own ++ others, ?_⟩
        simp only [Reported.outcome_bind, first, Except.bind, joined]
        rfl
    rw [step, inFolder_succeeds_iff, joinByName_succeeds_iff, discoverEach_eq]
    simp only [List.forall_mem_map]
    constructor
    · rintro ⟨own, others⟩ folder found has
      rcases hasFolder_folder.mp has with ⟨rfl, rfl⟩ | ⟨entry, listed, further⟩
      · exact own
      · exact (ih entry listed).mp (others entry listed) folder found further
    · intro all
      refine ⟨all way entries (.here way entries), fun entry listed => ?_⟩
      refine (ih entry listed).mpr fun folder found further => ?_
      exact all folder found (hasFolder_folder.mpr (.inr ⟨entry, listed, further⟩))

/-- What is found in a tree is what its folders have. -/
theorem discoverAt_lists (node : Node) : ∀ {way below : Path} {components : List Component},
    (discoverAt way below node).outcome = .ok components →
      Lists (HasFolder way node) components := by
  induction node using Node.induction with
  | file bytes =>
    intro way below components found
    cases found
    exact ⟨nofun, fun _ _ _ has => absurd has hasFolder_file⟩
  | folder entries ih =>
    intro way below components found
    rw [discoverAt] at found
    obtain ⟨own, first, second⟩ := Reported.bind_eq_ok found
    obtain ⟨others, joined, last⟩ := Reported.bind_eq_ok second
    cases last
    obtain ⟨each, related, permuted⟩ := joinByName_eq_ok joined
    rw [discoverEach_eq, List.forall₂_map_left_iff] at related
    -- Each sub-folder lists its own, and sorting by name keeps what is listed.
    have parts : List.Forall₂
        (fun entry found => Lists (HasFolder (way.child entry.1) entry.2) found) entries each :=
      ((List.forall₂_and_left _ _).mpr ⟨ih, related⟩).imp fun entry found both => both.1 both.2
    refine ((inFolder_lists first).append ((Lists.flatten parts).perm permuted)).congr ?_
    intro folder found
    exact hasFolder_folder

theorem discoverRoot_succeeds_iff {disk : Disk} {root : Path} :
    (∃ components, (discoverRoot disk root).outcome = .ok components) ↔
      ∀ tree, disk.node? root = some tree → ∀ folder entries, HasFolder root tree folder entries →
        HasMarkups entries → ¬ Stops entries := by
  unfold discoverRoot
  split
  next entries read =>
    rw [discoverAt_succeeds_iff]
    constructor
    · rintro all tree same
      cases read.symm.trans same
      exact all
    · intro all
      exact all _ read
  next other =>
    constructor
    · rintro - tree read folder entries has
      cases tree with
      | file bytes => exact absurd has hasFolder_file
      | folder inner => exact absurd read (other inner)
    · intro _
      exact ⟨[], rfl⟩

theorem discoverRoot_lists {disk : Disk} {root : Path} {components : List Component}
    (found : (discoverRoot disk root).outcome = .ok components) :
    Lists (fun folder entries => ∃ tree, disk.node? root = some tree ∧
      HasFolder root tree folder entries) components := by
  unfold discoverRoot at found
  split at found
  next entries read =>
    refine (discoverAt_lists _ found).congr fun folder found => ?_
    constructor
    · rintro ⟨tree, same, has⟩
      cases read.symm.trans same
      exact has
    · intro has
      exact ⟨_, read, has⟩
  next other =>
    cases found
    refine ⟨nofun, fun folder entries name ⟨tree, read, has⟩ => ?_⟩
    cases tree with
    | file bytes => exact absurd has hasFolder_file
    | folder inner => exact absurd read (other inner)

/-- A folder at or below one of the searched ones. -/
def Searched (disk : Disk) (roots : List Path) (folder : Path) (entries : Entries) : Prop :=
  ∃ root ∈ roots, ∃ tree, disk.node? root = some tree ∧ HasFolder root tree folder entries

theorem discover_succeeds_iff {disk : Disk} {roots : List Path} :
    (∃ registry, (Registry.discover disk roots).outcome = .ok registry) ↔
      ∀ folder entries, Searched disk roots folder entries → HasMarkups entries →
        ¬ Stops entries := by
  have each : (∃ results, (roots.mapM (discoverRoot disk)).outcome = .ok results) ↔
      ∀ root ∈ roots, ∃ components, (discoverRoot disk root).outcome = .ok components :=
    Reported.mapM_succeeds_iff
  -- Joining the roots cannot fail, so only searching each of them counts.
  have step : (∃ registry, (Registry.discover disk roots).outcome = .ok registry) ↔
      ∃ results, (roots.mapM (discoverRoot disk)).outcome = .ok results := by
    constructor
    · rintro ⟨registry, found⟩
      obtain ⟨results, found, -⟩ := Reported.bind_eq_ok found
      exact ⟨results, found⟩
    · rintro ⟨results, found⟩
      unfold Registry.discover
      simp only [Reported.outcome_bind, found]
      exact ⟨_, rfl⟩
  rw [step, each]
  simp only [discoverRoot_succeeds_iff]
  constructor
  · rintro all folder entries ⟨root, listed, tree, read, has⟩
    exact all root listed tree read folder entries has
  · intro all root listed tree read folder entries has
    exact all folder entries ⟨root, listed, tree, read, has⟩

theorem discover_lists {disk : Disk} {roots : List Path} {registry : Registry}
    (found : (Registry.discover disk roots).outcome = .ok registry) :
    Lists (Searched disk roots) registry.components := by
  obtain ⟨results, each, last⟩ := Reported.bind_eq_ok found
  cases last
  exact Lists.flatten ((Reported.mapM_eq_ok each).imp fun _ _ => discoverRoot_lists)

theorem isPlain_resolveBase {name : String} {config : Mapping.Entries}
    (plain : (Value.mapping config).IsPlain) :
    (Value.mapping (resolveBase name config)).IsPlain := by
  rw [Mapping.isPlain_mapping] at plain
  have inserted (value : Value) (new : value.IsPlain) :
      (Value.mapping (Mapping.insertName "extends" value config)).IsPlain :=
    Mapping.isPlain_mapping.mpr (Mapping.insert_plain ⟨⟨_, rfl⟩, new⟩ plain)
  unfold resolveBase
  split
  · exact inserted _ .null
  · split
    · exact inserted _ (.str _)
    · exact inserted _ (.str _)
    · exact Mapping.isPlain_mapping.mpr plain

/-- The configurations of a registry have no other values than JSON. -/
theorem isPlain_of_discover {disk : Disk} {roots : List Path} {registry : Registry}
    (found : (Registry.discover disk roots).outcome = .ok registry) :
    ∀ component ∈ registry.components, (Value.mapping component.config).IsPlain := by
  intro component listed
  obtain ⟨_, _, _, -, -, -, isOf⟩ := (discover_lists found).sound component listed
  obtain ⟨config, configures, same, -⟩ := isOf.configured
  rw [same]
  apply isPlain_resolveBase
  cases configures with
  | @object bytes s config found text read =>
    have ends := Json.read_ends (normalizeLines s)
    rw [read] at ends
    exact ends.of_ok
  | _ => exact Mapping.isPlain_mapping.mpr nofun

/-- The search ends with a registry exactly if no configuration beside a markup file is undecodable
or has an integer that is too long. Then the registry has a component for each markup file and no
others, and each has the configuration of its folder, the empty one if that is missing, a folder, no
JSON or no object, with its base decided. -/
theorem discover_ok_iff (disk : Disk) (roots : List Path) :
    ((∃ registry, (Registry.discover disk roots).outcome = .ok registry) ↔
      ∀ folder entries, Searched disk roots folder entries → HasMarkups entries →
        ¬ Stops entries) ∧
    ∀ registry, (Registry.discover disk roots).outcome = .ok registry →
      Lists (Searched disk roots) registry.components := by
  constructor
  · exact discover_succeeds_iff
  · intro registry found
    exact discover_lists found

/-- The folder of a component with its configuration file. -/
def configuredFolder (config : List UInt8) : Entries :=
  [("config.json", .file config), ("index.html", .file [120])]

def configuredDisk (config : List UInt8) : Disk :=
  ⟨.folder [("c", .folder [("A", .folder (configuredFolder config))])], []⟩

theorem searched_configured (config : List UInt8) :
    Searched (configuredDisk config) [⟨0, ["c"]⟩] ⟨0, ["c", "A"]⟩ (configuredFolder config) := by
  refine ⟨⟨0, ["c"]⟩, List.mem_singleton_self _, _, rfl, ?_⟩
  exact .deeper (List.mem_singleton_self _) (.here _ _)

theorem hasMarkup_configured (config : List UInt8) :
    HasMarkup "index" (configuredFolder config) :=
  ⟨[120], List.mem_cons_of_mem _ (List.mem_singleton_self _)⟩

/-- A brace is no JSON and counts as an empty object; a byte that begins no character stops the
search. -/
theorem discover_ok_iff_configured :
    (∃ registry, (Registry.discover (configuredDisk [0x7B]) [⟨0, ["c"]⟩]).outcome = .ok registry ∧
      ∃ component ∈ registry.components, component.name = "A" ∧
        component.config = [(.str "extends", .str "BaseComponent")]) ∧
    ¬ ∃ registry,
      (Registry.discover (configuredDisk [0xFF]) [⟨0, ["c"]⟩]).outcome = .ok registry := by
  have index : "index" ≠ "" := by decide
  constructor
  · have malformed : Json.read (normalizeLines ['\x7b']) = .error .malformedJson := by rfl
    have empty : Configures (configuredFolder [0x7B]) [] := .malformed rfl rfl malformed
    have goes : ∀ folder entries, Searched (configuredDisk [0x7B]) [⟨0, ["c"]⟩] folder entries →
        HasMarkups entries → ¬ Stops entries := by
      rintro folder entries ⟨root, listed, tree, read, has⟩ - stops
      obtain rfl := List.mem_singleton.mp listed
      cases read
      rcases hasFolder_folder.mp has with ⟨-, rfl⟩ | ⟨entry, inside, further⟩
      · cases stops with
        | undecodable found | tooLong found => contradiction
      obtain rfl := List.mem_singleton.mp inside
      rcases hasFolder_folder.mp further with ⟨-, rfl⟩ | ⟨entry, inside, deeper⟩
      · exact readConfig_succeeds_iff.mp ⟨[], readConfig_of_configures .here empty⟩ stops
      · -- Nothing but files stands in the folder of the component.
        simp only [configuredFolder, List.mem_cons, List.not_mem_nil, or_false] at inside
        rcases inside with rfl | rfl
        · exact hasFolder_file deeper
        · exact hasFolder_file deeper
    obtain ⟨registry, found⟩ := (discover_ok_iff _ _).1.mpr goes
    have lists := (discover_ok_iff _ _).2 registry found
    obtain ⟨component, listed, isOf⟩ :=
      lists.complete _ _ "index" (searched_configured _) index (hasMarkup_configured _)
    obtain ⟨config, configures, same, -⟩ := isOf.configured
    have name : component.name = "A" := isOf.name_eq
    have nothing : config = [] := by
      have read := readConfig_of_configures .here configures
      rw [readConfig_of_configures .here empty] at read
      cases read
      rfl
    refine ⟨registry, found, component, listed, name, ?_⟩
    rw [same, name, nothing]
    rfl
  · intro found
    exact (discover_ok_iff _ _).1.mp found _ _ (searched_configured _)
      ⟨"index", index, hasMarkup_configured _⟩ (.undecodable rfl rfl)

end Component

end StaticSite
