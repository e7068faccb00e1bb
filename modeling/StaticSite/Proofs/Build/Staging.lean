import StaticSite.Build
import StaticSite.Expression.Program
import StaticSite.Proofs.Disk.Operations
import StaticSite.Proofs.Text.Skipping

/-!
# The staging folder

A build prepares an empty staging folder and fills it. Whatever happens while it is filled, the disk
changes below the staging folder alone, as long as no page goes elsewhere.
-/

namespace StaticSite

open StaticSite.Text

namespace Path

/-- A text that names one entry of a folder. -/
structure IsName (name : String) : Prop where
  nonempty : name ≠ ""
  plain : name ≠ "."
  inside : name ≠ ".."
  whole : '/' ∉ name.toList

theorem ofString_of_isName {name : String} (single : IsName name) :
    ofString name = ⟨0, [name]⟩ := by
  have relative : leadingSlashes name.toList = 0 := by
    have none : name.toList.takeWhile (· = '/') = [] := by
      cases text : name.toList with
      | nil => rfl
      | cons c s =>
        have other : c ≠ '/' := fun same =>
          single.whole (by rw [text, same]; exact List.mem_cons_self)
        simp [other]
    simp [leadingSlashes, none]
  have segment : isSegment name.toList = true := by
    have nonempty : name.toList ≠ [] := fun empty =>
      single.nonempty (String.toList_inj.mp (empty.trans String.toList_empty.symm))
    have plain : name.toList ≠ ['.'] := fun point =>
      single.plain (String.toList_inj.mp point)
    simp [isSegment, nonempty, plain]
  simp [ofString, ofList, relative, splitOn_of_notMem single.whole, segment]

/-- A text with a longer first piece than a point is a relative path with a segment. -/
theorem ofList_cons_cons {c d : Char} {s : List Char} (first : c ≠ '/') (second : d ≠ '/') :
    (ofList (c :: d :: s)).slashes = 0 ∧ (ofList (c :: d :: s)).segments ≠ [] := by
  constructor
  · simp [ofList, leadingSlashes, first]
  · obtain ⟨piece, rest, found⟩ := splitFrom_head ['/'] (s.length + 1 + 1 + 1) 0 [d, c] s
    have pieces : splitOn ['/'] (c :: d :: s) = ([d, c].reverse ++ piece) :: rest := by
      rw [← found]
      simp [splitOn, splitFrom, startsWith, dropFront?, first.symm, second.symm]
    simp [ofList, pieces, isSegment]

/-- A relative path that never leads to the folder above. -/
structure IsInner (path : Path) : Prop where
  relative : path.slashes = 0
  downward : ".." ∉ path.segments

theorem IsInner.ext {first second : Path} (inner : first.IsInner) (other : second.IsInner)
    (same : first.segments = second.segments) : first = second := by
  have relative := inner.relative.trans other.relative.symm
  cases first
  cases second
  cases relative
  cases same
  rfl

theorem append_of_isInner {below : Path} (folder : Path) (inner : below.IsInner) :
    folder ++ below = ⟨folder.slashes, folder.segments ++ below.segments⟩ :=
  if_neg (by simp [isAbsolute, inner.relative])

end Path

namespace Disk

variable {disk : Disk} {folder below : Path}

theorem place_append (inner : below.IsInner) :
    disk.place (folder ++ below) = disk.place folder ++ below.segments := by
  rw [Path.append_of_isInner folder inner]
  show Location.resolve (disk.start folder) (folder.segments ++ below.segments) = _
  rw [Location.resolve_append, Location.resolve_of_plain inner.downward]
  rfl

/-- Below a folder, an inner path only leads through what is between the folder and its end. -/
theorem ways_append (inner : below.IsInner) {way : Location}
    (passed : way ∈ disk.ways (folder ++ below)) :
    way ∈ disk.ways folder ∨
      (disk.place folder <+: way ∧ way <+: disk.place folder ++ below.segments) := by
  rw [Path.append_of_isInner folder inner] at passed
  have passed : way ∈ Location.ways (disk.start folder) (folder.segments ++ below.segments) := passed
  rw [Location.ways_append, List.mem_append] at passed
  exact passed.imp_right fun deeper =>
    ⟨Location.prefix_of_mem_ways_of_plain inner.downward deeper,
      Location.mem_ways_of_plain inner.downward deeper⟩

end Disk

namespace Builder

variable (builder : Builder)

/-! ### Where the output goes -/

theorem staging_segments_ne_nil : builder.staging.segments ≠ [] := by
  have text : (".staging-" ++ builder.env).toList
      = '.' :: 's' :: ("taging-".toList ++ builder.env.toList) := by
    rw [String.toList_append]
    rfl
  obtain ⟨relative, filled⟩ : (Path.ofString (".staging-" ++ builder.env)).slashes = 0 ∧
      (Path.ofString (".staging-" ++ builder.env)).segments ≠ [] := by
    rw [Path.ofString, text]
    exact Path.ofList_cons_cons (by decide) (by decide)
  have joined : builder.staging.segments
      = builder.outputRoot.segments ++ (Path.ofString (".staging-" ++ builder.env)).segments :=
    congrArg Path.segments (if_neg (by simp [Path.isAbsolute, relative]))
  rw [joined]
  exact List.append_ne_nil_of_right_ne_nil _ filled

theorem isName_staging {name : String} (single : Path.IsName name) :
    Path.IsName (".staging-" ++ name) := by
  have text : (".staging-" ++ name).toList = ".staging-".toList ++ name.toList :=
    String.toList_append
  have long (short : String) (few : short.toList.length ≤ 2) : ".staging-" ++ name ≠ short := by
    intro same
    rw [← same, text, List.length_append, show ".staging-".toList.length = 9 from rfl] at few
    omega
  refine ⟨long "" (by decide), long "." (by decide), long ".." (by decide), fun inside => ?_⟩
  rw [text, List.mem_append] at inside
  exact inside.elim (by decide) single.whole

theorem child_of_isName {folder : Path} {name : String} (single : Path.IsName name) :
    folder.child name = ⟨folder.slashes, folder.segments ++ [name]⟩ := by
  rw [Path.child, Path.ofString_of_isName single]
  rfl

theorem place_child {disk : Disk} {folder : Path} {name : String} (single : Path.IsName name) :
    disk.place (folder.child name) = disk.place folder ++ [name] := by
  rw [child_of_isName single]
  show Location.resolve (disk.start folder) (folder.segments ++ [name]) = _
  rw [Location.resolve_snoc, Location.enter_of_ne single.inside]
  rfl

theorem ways_child {disk : Disk} {folder : Path} {name : String} (single : Path.IsName name) :
    disk.ways (folder.child name) = disk.stops folder := by
  rw [child_of_isName single]
  exact Location.ways_snoc (disk.start folder) folder.segments name

theorem not_prefix_sibling {folder : Location} {name other : String} (differs : name ≠ other)
    (rest : Location) : ¬ folder ++ [name] <+: folder ++ [other] ++ rest := by
  intro inside
  rw [List.append_assoc, List.prefix_append_right_inj] at inside
  exact differs (List.cons_prefix_cons.mp inside).1

theorem env_ne_staging : builder.env ≠ ".staging-" ++ builder.env := by
  intro same
  have lengths := congrArg String.length same
  rw [String.length_append, show ".staging-".length = 9 from rfl] at lengths
  omega

theorem staging_not_prefix_target {builder : Builder} {disk : Disk}
    (single : Path.IsName builder.env) (rest : Location) :
    ¬ disk.place builder.staging <+: disk.place builder.target ++ rest := by
  rw [staging, target, place_child single, place_child (isName_staging single)]
  exact not_prefix_sibling builder.env_ne_staging.symm rest

theorem target_not_prefix_staging {builder : Builder} {disk : Disk}
    (single : Path.IsName builder.env) (rest : Location) :
    ¬ disk.place builder.target <+: disk.place builder.staging ++ rest := by
  rw [staging, target, place_child single, place_child (isName_staging single)]
  exact not_prefix_sibling builder.env_ne_staging rest

theorem staging_append_ne_nil {below : Path} (inner : below.IsInner) :
    (builder.staging ++ below).segments ≠ [] := by
  rw [Path.append_of_isInner _ inner]
  exact List.append_ne_nil_of_left_ne_nil builder.staging_segments_ne_nil _

/-! ### Preparing -/

/-- What an emptied staging folder leaves of the disk: everything outside it, with new folders on
the way to it. -/
structure Prepared (before after : Disk) : Prop where
  here : after.here = before.here
  outside : ∀ location, ¬ before.place builder.staging <+: location →
    after.look location = before.look location ∨
      (before.look location = none ∧ after.look location = some .folder)
  inside : ∀ rest, after.look (before.place builder.staging ++ rest) = Node.empty.look rest
  replaced : before.file? (before.place builder.staging) = none
  opens : after.Opens builder.staging
  apart : ∀ way ∈ after.ways builder.staging, ¬ before.place builder.staging <+: way

variable {builder} {before after : Disk}

theorem Prepared.file? {location : Location} (prepared : builder.Prepared before after)
    (outside : ¬ before.place builder.staging <+: location) :
    after.file? location = before.file? location := by
  rcases prepared.outside location outside with same | ⟨missing, new⟩
  · exact View.file?_congr same
  · exact (View.file?_of_folder new).trans (View.file?_of_none missing).symm

theorem clear_eq_ok {path : Path} (cleared : clear path before = (.ok (), after)) :
    (after = before ∧ before.contains path = false) ∨ Disk.removeTree path before = (.ok (), after) := by
  obtain ⟨disk, _, seen, cleared⟩ := Action.bind_eq_ok.mp cleared
  cases seen
  split at cleared
  · exact .inr cleared
  · rename_i absent
    cases cleared
    exact .inl ⟨rfl, by simpa using absent⟩

theorem clear_changed (path : Path) (disk : Disk) :
    Disk.ChangedBelow (disk.place path) disk (clear path disk).2 := by
  unfold clear
  rw [Action.bind_of_ok (rfl : Action.get disk = (.ok disk, disk))]
  split
  · exact Disk.removeTree_changed path disk
  · exact .refl _ _

theorem prepare_eq_ok (prepared : builder.prepare before = (.ok (), after)) :
    builder.Prepared before after := by
  obtain ⟨_, cleared, clearing, making⟩ := Action.bind_eq_ok.mp prepared
  obtain ⟨grown, growth, made⟩ := Disk.makeNewFolder_eq_ok builder.staging_segments_ne_nil making
  obtain ⟨opens, vacant, _⟩ := Disk.makeFolder_eq_ok made
  obtain ⟨here, view⟩ := Disk.makeFolder_look builder.staging_segments_ne_nil made
  have gone : cleared.here = before.here ∧
      Disk.ChangedBelow (before.place builder.staging) before cleared ∧
      (cleared.look (before.place builder.staging) = none →
        before.file? (before.place builder.staging) = none) := by
    rcases clear_eq_ok clearing with ⟨rfl, _⟩ | removed
    · exact ⟨rfl, .refl _ _, View.file?_of_none⟩
    · obtain ⟨_, _, present, here, view⟩ := Disk.removeTree_eq_ok removed
      exact ⟨here, .of_graft here view, fun _ => View.file?_of_folder present⟩
  obtain ⟨sameHere, changed, was⟩ := gone
  have staging : grown.place builder.staging = before.place builder.staging :=
    Disk.place_eq_of_here (growth.here.trans sameHere)
  rw [staging] at vacant view
  -- Nothing stands at the staging folder before it is made, so no way leads through it.
  have apart (way : Location) (passed : way ∈ grown.ways builder.staging) :
      ¬ before.place builder.staging <+: way := by
    rintro ⟨rest, rfl⟩
    have missing := Node.look_below_none vacant rest
    exact absurd ((opens.passable _ passed).symm.trans missing) nofun
  have filled := Disk.ChangedBelow.of_graft here view
  refine ⟨(here.trans growth.here).trans sameHere, fun location outside => ?_, fun rest => ?_, was ?_,
    filled.opens opens apart, fun way passed => ?_⟩
  · rw [filled.look location outside]
    rcases growth.look location with same | ⟨missing, new, _⟩
    · exact .inl (same.trans (changed.look location outside))
    · rw [changed.look location outside] at missing
      exact .inr ⟨missing, new⟩
  · rw [view, View.graft_append]
  · rcases growth.look (before.place builder.staging) with same | ⟨_, new, _⟩
    · rw [← same, vacant]
    · rw [vacant] at new
      cases new
  · rw [Disk.ways_eq_of_here here] at passed
    exact apart way passed

/-! ### Filling -/

/-- The disk while the staging folder is filled, against what it was when filling began. -/
structure Filling (builder : Builder) (origin disk : Disk) : Prop where
  changed : Disk.ChangedBelow (origin.place builder.staging) origin disk
  present : disk.look (origin.place builder.staging) = some .folder

namespace Filling

variable {origin disk next : Disk} {below : Path}

/-- New folders on the way to a place in the staging folder are inside it: those above are there. -/
theorem grown {places : List Location} (opens : disk.Opens builder.staging)
    (filling : builder.Filling origin disk) (growth : Disk.Grown places disk next)
    (listed : ∀ place ∈ places,
      place ∈ disk.ways builder.staging ∨ disk.place builder.staging <+: place) :
    builder.Filling origin next := by
  refine ⟨filling.changed.trans ⟨growth.here, fun location outside => ?_⟩,
    growth.look_folder filling.present⟩
  rcases growth.look location with same | ⟨missing, _, new⟩
  · exact same
  · rcases listed location new with above | inside
    · exact absurd ((opens.passable location above).symm.trans missing) nofun
    · rw [Disk.place_eq_of_here filling.changed.here] at inside
      exact absurd inside outside

theorem inside {below : Location} (filling : builder.Filling origin disk) (deep : below ≠ [])
    (changed : Disk.ChangedBelow (origin.place builder.staging ++ below) disk next) :
    builder.Filling origin next := by
  refine ⟨filling.changed.trans (changed.mono (List.prefix_append _ below)), ?_⟩
  have outside : ¬ origin.place builder.staging ++ below <+: origin.place builder.staging :=
    fun inside => by
      have shorter := inside.length_le
      rw [List.length_append] at shorter
      have length := List.length_pos_of_ne_nil deep
      omega
  rw [changed.look _ outside]
  exact filling.present

end Filling

variable {origin : Disk} {below : Path}

theorem Prepared.filling (prepared : builder.Prepared before origin) :
    builder.Filling origin origin := by
  refine ⟨.refl _ _, ?_⟩
  have present := prepared.inside []
  rwa [List.append_nil, ← Disk.place_eq_of_here prepared.here] at present

/-- Outside the staging folder, all files are what they were at first. -/
theorem Prepared.file?_of_filling (prepared : builder.Prepared before origin) {disk : Disk}
    (filling : builder.Filling origin disk) {location : Location}
    (outside : ¬ before.place builder.staging <+: location) :
    disk.file? location = before.file? location := by
  have changed := filling.changed
  rw [Disk.place_eq_of_here prepared.here] at changed
  rw [changed.file? outside]
  exact prepared.file? outside

/-- The staging folder can be reached as long as only what is in it changes. -/
theorem Prepared.opens_filling (prepared : builder.Prepared before origin) {disk : Disk}
    (filling : builder.Filling origin disk) : disk.Opens builder.staging := by
  refine filling.changed.opens prepared.opens fun way passed => ?_
  rw [Disk.place_eq_of_here prepared.here]
  exact prepared.apart way passed

theorem Prepared.keeps_makeFolders (prepared : builder.Prepared before origin)
    (inner : below.IsInner) :
    Action.Keeps (builder.Filling origin) (Disk.makeFolders (builder.staging ++ below).parent) := by
  intro disk filling
  have filled := builder.staging_append_ne_nil inner
  exact filling.grown (prepared.opens_filling filling) (Disk.makeFolders_parent_grown filled disk)
    fun place passed => (Disk.ways_append inner passed).imp_right And.left

theorem keeps_write (inner : below.IsInner) (bytes : List UInt8) :
    Action.Keeps (builder.Filling origin) (.change (Disk.write (builder.staging ++ below) bytes)) := by
  refine .change fun disk next filling written => ?_
  have filled := builder.staging_append_ne_nil inner
  obtain ⟨_, other, here, view⟩ := Disk.write_eq_ok filled written
  rw [Disk.place_append inner, Disk.place_eq_of_here filling.changed.here] at other view
  refine filling.inside (fun top => other ?_) (.of_graft here view)
  rw [top, List.append_nil]
  exact filling.present

theorem isName_assets : Path.IsName "assets" :=
  ⟨by decide, by decide, by decide, by decide⟩

theorem Prepared.keeps_copyAssets (prepared : builder.Prepared before origin) :
    Action.Keeps (builder.Filling origin) builder.copyAssets := by
  refine .bind .get fun disk => ?_
  split
  · intro disk filling
    obtain ⟨grown, growth, changed⟩ := Disk.copyTree_changed
      (builder.settings.resolve builder.settings.assetsFolder) (builder.staging.child "assets") disk
    have opens := prepared.opens_filling filling
    have target : disk.place (builder.staging.child "assets")
        = disk.place builder.staging ++ ["assets"] := place_child isName_assets
    -- Every folder on the way to the assets is above the staging folder or inside of it.
    have made := filling.grown opens growth fun place stop => by
      rcases List.mem_append.mp stop with passed | last
      · rw [ways_child isName_assets] at passed
        rcases List.mem_append.mp passed with above | here
        · exact .inl above
        · rw [List.mem_singleton.mp here]
          exact .inr List.prefix_rfl
      · rw [List.mem_singleton.mp last, target]
        exact .inr (List.prefix_append _ _)
    rw [target, Disk.place_eq_of_here filling.changed.here] at changed
    exact made.inside (List.cons_ne_nil _ _) changed
  · exact .pure _

theorem inSession_disk {α : Type} {action : Action Session α} {before after : Workspace}
    {outcome : Except Fault α} (run : Workspace.inSession action before = (outcome, after)) :
    after.disk = before.disk := by
  cases run
  rfl

theorem onDisk_eq {α : Type} {action : Action Disk α} {before after : Workspace}
    {outcome : Except Fault α} (run : Workspace.onDisk action before = (outcome, after)) :
    action before.disk = (outcome, after.disk) := by
  cases run
  rfl

theorem onDisk_snd {α : Type} (action : Action Disk α) (workspace : Workspace) :
    (Workspace.onDisk action workspace).2.disk = (action workspace.disk).2 := rfl

theorem onDisk_session {α : Type} {action : Action Disk α} {before after : Workspace}
    {outcome : Except Fault α} (run : Workspace.onDisk action before = (outcome, after)) :
    after.session = before.session := by
  cases run
  rfl

theorem keeps_inSession {α : Type} (inv : Disk → Prop) (action : Action Session α) :
    Action.Keeps (fun workspace => inv workspace.disk) (Workspace.inSession action) :=
  .within fun _ here => here

theorem keeps_onDisk {α : Type} {inv : Disk → Prop} {action : Action Disk α}
    (kept : Action.Keeps inv action) :
    Action.Keeps (fun workspace => inv workspace.disk) (Workspace.onDisk action) :=
  .within fun workspace here => kept workspace.disk here

/-- The text of a page: its markup with its scripts, changed by the processors. -/
def pageText (builder : Builder) (registry : Registry) (entry : Registry.Entry) :
    Action Workspace (List Char) := do
  let markup ← builder.renderPage registry entry
  Workspace.report (builder.check markup entry.component)
  let complete ← builder.addScripts entry markup
  Workspace.report (Plugin.Processor.applyAll entry.component
    (builder.staging ++ entry.component.outputPath) builder.processors complete)

theorem buildPage_eq (registry : Registry) (entry : Registry.Entry) :
    builder.buildPage registry entry = do
      let text ← builder.pageText registry entry
      Workspace.onDisk (Disk.makeFolders (builder.staging ++ entry.component.outputPath).parent)
      Workspace.onDisk
        (.change (Disk.writeText (builder.staging ++ entry.component.outputPath) text))
      return entry.component.outputPath := by
  simp only [buildPage, pageText, bind_assoc]

/-- The text of a page comes about without a change of the disk. -/
theorem keeps_pageText (inv : Disk → Prop) (registry : Registry) (entry : Registry.Entry) :
    Action.Keeps (fun workspace => inv workspace.disk) (builder.pageText registry entry) := by
  have rendered : Action.Keeps (fun workspace => inv workspace.disk)
      (builder.renderPage registry entry) :=
    .bind .get fun _ => keeps_inSession inv _
  have scripted (markup : List Char) : Action.Keeps (fun workspace => inv workspace.disk)
      (builder.addScripts entry markup) :=
    .bind (keeps_inSession inv _) fun _ => .bind .get fun _ => .pure _
  exact .bind rendered fun markup => .bind (keeps_inSession inv _) fun _ =>
    .bind (scripted markup) fun complete => keeps_inSession inv _

theorem Prepared.keeps_buildPage (prepared : builder.Prepared before origin) (registry : Registry)
    {entry : Registry.Entry} (inner : entry.component.outputPath.IsInner) :
    Action.Keeps (fun workspace => builder.Filling origin workspace.disk)
      (builder.buildPage registry entry) := by
  rw [buildPage_eq]
  refine .bind (keeps_pageText _ registry entry) fun text => ?_
  refine .bind (keeps_onDisk (prepared.keeps_makeFolders inner)) fun _ => ?_
  exact .bind (keeps_onDisk (keeps_write inner _)) fun _ => .pure _

theorem Prepared.keeps_buildPages (prepared : builder.Prepared before origin) (registry : Registry)
    {entries : List Registry.Entry}
    (inner : ∀ entry ∈ entries, entry.component.outputPath.IsInner) :
    Action.Keeps (fun workspace => builder.Filling origin workspace.disk)
      (builder.buildPages registry entries) := by
  induction entries with
  | nil => exact .pure _
  | cons entry entries ih =>
    have first := prepared.keeps_buildPage registry (inner entry List.mem_cons_self)
    have others := ih fun entry listed => inner entry (List.mem_cons_of_mem _ listed)
    exact .bind first fun path => .bind others fun _ => .pure _

theorem Prepared.keeps_fill (prepared : builder.Prepared before origin) {registry : Registry}
    (inner : ∀ entry ∈ registry.pages, entry.component.outputPath.IsInner) :
    Action.Keeps (fun workspace => builder.Filling origin workspace.disk)
      (builder.fill registry) :=
  .bind (prepared.keeps_buildPages registry inner) fun _ =>
    .bind (keeps_onDisk prepared.keeps_copyAssets) fun _ => .pure _

/-! ### Up to publication -/

/-- The pages that a build is going to write lie in its output. -/
def PagesInside (builder : Builder) (workspace : Workspace) : Prop :=
  ∀ registry, (builder.discover workspace).1 = .ok registry →
    ∀ entry ∈ registry.pages, entry.component.outputPath.IsInner

/-- A build up to its publication. -/
def stage (builder : Builder) : Action Workspace (List Path) := do
  let registry ← builder.discover
  Workspace.inSession (.modify Session.resetData)
  Workspace.onDisk builder.prepare
  (builder.fill registry).onFault (Workspace.onDisk (Disk.removeTree builder.staging))

theorem run_eq (builder : Builder) :
    builder.run = do
      let written ← builder.stage
      Workspace.onDisk builder.publish
      return written.map (builder.target ++ ·) := by
  simp only [run, stage, bind_assoc]

theorem discover_disk (builder : Builder) (workspace : Workspace) :
    (builder.discover workspace).2.disk = workspace.disk := by
  have kept : Action.Keeps (fun after : Workspace => after.disk = workspace.disk) builder.discover :=
    .bind .get fun _ => keeps_inSession (fun disk => disk = workspace.disk) _
  exact kept workspace rfl

/-- A build that comes to its publication has found its components, prepared and filled the staging
folder. -/
theorem stage_eq_ok {before after : Workspace} {written : List Path}
    (staged : builder.stage before = (.ok written, after)) :
    ∃ registry found ready, builder.discover before = (.ok registry, found) ∧
      builder.Prepared before.disk ready.disk ∧ ready.session = found.session.resetData ∧
      builder.prepare before.disk = (.ok (), ready.disk) ∧
      builder.fill registry ready = (.ok written, after) := by
  obtain ⟨registry, found, searched, resetting⟩ := Action.bind_eq_ok.mp staged
  obtain ⟨_, reset, cleared, preparing⟩ := Action.bind_eq_ok.mp resetting
  obtain ⟨_, ready, prepared, filling⟩ := Action.bind_eq_ok.mp preparing
  have foundDisk := builder.discover_disk before
  rw [searched] at foundDisk
  have made := onDisk_eq prepared
  rw [inSession_disk cleared, foundDisk] at made
  refine ⟨registry, found, ready, searched, prepare_eq_ok made, ?_, made,
    Action.onFault_eq_ok.mp filling⟩
  rw [onDisk_session prepared]
  cases cleared
  rfl

theorem stage_filling {before after : Workspace} {written : List Path}
    (inside : builder.PagesInside before) (staged : builder.stage before = (.ok written, after)) :
    ∃ origin, builder.Prepared before.disk origin ∧ builder.Filling origin after.disk := by
  obtain ⟨registry, found, ready, searched, prepared, _, _, filled⟩ := stage_eq_ok staged
  have kept := prepared.keeps_fill (inside registry (by rw [searched])) ready prepared.filling
  rw [filled] at kept
  exact ⟨ready.disk, prepared, kept⟩

/-! ### A small site -/

/-- A folder with the markup `b.html` of a page and the configuration `{"render":true}`. -/
def smallFolder (markup : List UInt8) : List (String × Node) :=
  [("b.html", .file markup), ("config.json",
    .file [123, 34, 114, 101, 110, 100, 101, 114, 34, 58, 116, 114, 117, 101, 125])]

def smallPage (markup : List UInt8) : Component :=
  (Component.ofFile ⟨0, ["c"]⟩ .here (smallFolder markup) "b.html").value?.getD default

def smallSettings : Settings where
  __ := Settings.standard .here
  componentsFolder := .ofSegments ["c"]
  assetsFolder := .ofSegments ["a"]
  outputFolder := .ofSegments ["p"]

def smallBuilder : Builder := ⟨smallSettings, "d", [], Expression.evaluate, none, none, [], []⟩

/-- The disk of the small site: its page, an asset, and the file `f` of an earlier build. -/
def smallWorkspace (markup : List UInt8) : Workspace where
  disk := ⟨.folder [("a", .folder [("i", .file [105])]), ("c", .folder (smallFolder markup)),
    ("p", .folder [("d", .folder [("f", .file [102])])])], []⟩
  session := .start

theorem discover_small (markup : List UInt8) :
    smallBuilder.discover (smallWorkspace markup)
      = (.ok ⟨[smallPage markup]⟩, smallWorkspace markup) := by
  have read : Component.ofFile ⟨0, ["c"]⟩ .here (smallFolder markup) "b.html"
      = ⟨[], .ok (smallPage markup)⟩ := rfl
  have markupFiles : (smallFolder markup).filter Component.isMarkupFile
      = [("b.html", .file markup)] := by
    have page : (Path.ofSegments ["b.html"]).suffix = ".html" := by decide +kernel
    have other : (Path.ofSegments ["config.json"]).suffix ≠ ".html" := by decide +kernel
    simp [smallFolder, Component.isMarkupFile, Node.isFolder, page, other]
  have own : Component.inFolder ⟨0, ["c"]⟩ .here (smallFolder markup)
      = ⟨[], .ok [smallPage markup]⟩ := by
    rw [Component.inFolder, markupFiles, Component.byName_of_sorted (List.pairwise_singleton _ _),
      List.mapM_cons, List.mapM_nil, read]
    rfl
  -- The files of a folder are sorted by name; these two are in order already.
  have sorted : Component.byName
      [("b.html", (pure [] : Reported (List Component))), ("config.json", pure [])]
        = [("b.html", pure []), ("config.json", pure [])] :=
    Component.byName_of_sorted (by decide)
  have found : Component.discoverAt ⟨0, ["c"]⟩ .here (.folder (smallFolder markup))
      = ⟨[], .ok [smallPage markup]⟩ := by
    rw [Component.discoverAt, own, Component.joinByName]
    simp only [smallFolder, Component.discoverEach, Component.discoverAt]
    rw [sorted]
    rfl
  have searched : Component.discoverRoot (smallWorkspace markup).disk ⟨0, ["c"]⟩
      = ⟨[], .ok [smallPage markup]⟩ := found
  show Workspace.report (Registry.discover (smallWorkspace markup).disk [⟨0, ["c"]⟩])
    (smallWorkspace markup) = _
  rw [Registry.discover, List.mapM_cons, searched]
  rfl

theorem pagesInside_small (markup : List UInt8) :
    smallBuilder.PagesInside (smallWorkspace markup) := by
  intro registry found entry listed
  rw [discover_small] at found
  cases found
  have only : entry = ⟨0, smallPage markup⟩ :=
    List.mem_singleton.mp (List.mem_filter.mp listed).1
  have path : (smallPage markup).outputPath = ⟨0, ["b", "index.html"]⟩ := by rfl
  rw [only]
  show (smallPage markup).outputPath.IsInner
  rw [path]
  exact ⟨rfl, by decide⟩

end Builder

end StaticSite
