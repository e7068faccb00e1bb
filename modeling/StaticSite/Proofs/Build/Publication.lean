import StaticSite.Proofs.Build.Staging
import StaticSite.Proofs.Disk.Copying

/-!
# Builds that succeed

A build that succeeds has built its pages one after the other, each with the data that the renders
before it have loaded. Then the files of its output are the texts of these pages and the assets.
-/

namespace StaticSite.Builder

open StaticSite.Text

variable {builder : Builder} {registry : Registry} {entry : Registry.Entry}
  {before after : Workspace} {origin disk next : Disk}

/-! ### Pages -/

/-- How a page has been built: the workspaces before and after its render, the markup that the
render gives, the sign-in scripts, and the text that is written. -/
structure Page where
  entry : Registry.Entry
  before : Workspace
  rendered : Workspace
  markup : List Char
  authScripts : List (List Char)
  text : List Char

namespace Page

/-- The place of a page in the output. -/
def location (page : Page) : Location := page.entry.component.outputPath.segments

/-- The scripts of a page: those for signing in, then those that loading its data has given. -/
def scripts (page : Page) : List (List Char) :=
  page.authScripts ++ (page.rendered.session.data page.entry.place).scripts.map String.toList

/-- A page as a build makes it: its render with its scripts, changed by the processors. In a strict
build no rule speaks against the render. -/
structure Made (builder : Builder) (registry : Registry) (page : Page) : Prop where
  render : builder.renderPage registry page.entry page.before = (.ok page.markup, page.rendered)
  auth : (builder.authScripts page.entry.component).outcome = .ok page.authScripts
  process : (Plugin.Processor.applyAll page.entry.component
    (builder.staging ++ page.entry.component.outputPath) builder.processors
    (Script.inject page.markup page.scripts)).outcome = .ok page.text
  passes : builder.isStrict = true →
    (Plugin.Rule.judgeAll page.markup page.entry.component builder.rules).outcome = .ok []

/-- Each page is rendered with the data that was loaded before, and the first with the given one. -/
def Succeed : (Nat → Component.Data) → List Page → Prop
  | _, [] => True
  | data, page :: pages => page.before.session.data = data ∧ Succeed page.rendered.session.data pages

end Page

theorem report_eq {α : Type} {result : Reported α} {outcome : Except Fault α}
    (run : Workspace.report result before = (outcome, after)) :
    result.outcome = outcome ∧ after.disk = before.disk ∧
      after.session.data = before.session.data := by
  cases run
  exact ⟨rfl, rfl, rfl⟩

theorem check_eq_ok {markup : List Char} {component : Component}
    (checked : (builder.check markup component).outcome = .ok ()) (strict : builder.isStrict = true) :
    (Plugin.Rule.judgeAll markup component builder.rules).outcome = .ok [] := by
  unfold check at checked
  rw [Reported.outcome_bind] at checked
  cases judged : (Plugin.Rule.judgeAll markup component builder.rules).outcome with
  | error fault =>
    rw [judged] at checked
    cases checked
  | ok failures =>
    rw [judged] at checked
    cases failures with
    | nil => rfl
    -- A strict check with a failure ends in a fault, noted or not.
    | cons failure failures =>
      simp only [Except.bind, strict, List.isEmpty_cons, if_true, if_false, Bool.false_eq_true,
        Reported.outcome_bind] at checked
      cases noted : (noteFailures .error component (failure :: failures)).outcome with
      | error fault =>
        rw [noted] at checked
        cases checked
      | ok _ =>
        rw [noted] at checked
        cases checked

theorem addScripts_eq_ok {markup complete : List Char}
    (added : builder.addScripts entry markup before = (.ok complete, after)) :
    ∃ authScripts, (builder.authScripts entry.component).outcome = .ok authScripts ∧
      complete = Script.inject markup
        (authScripts ++ (before.session.data entry.place).scripts.map String.toList) ∧
      after.session.data = before.session.data := by
  obtain ⟨authScripts, middle, reported, second⟩ := Action.bind_eq_ok.mp added
  obtain ⟨outcome, _, data⟩ := report_eq reported
  obtain ⟨_, _, got, last⟩ := Action.bind_eq_ok.mp second
  cases got
  cases last
  exact ⟨authScripts, outcome, by rw [data], data⟩

theorem pageText_disk {outcome : Except Fault (List Char)}
    (run : builder.pageText registry entry before = (outcome, after)) :
    after.disk = before.disk := by
  have kept : Action.Keeps (fun workspace => workspace.disk = before.disk)
      (builder.pageText registry entry) := keeps_pageText (fun disk => disk = before.disk) _ _
  have same := kept before rfl
  rwa [run] at same

theorem pageText_eq_ok {text : List Char}
    (made : builder.pageText registry entry before = (.ok text, after)) :
    ∃ page : Page, page.entry = entry ∧ page.before = before ∧ page.text = text ∧
      page.Made builder registry ∧ after.session.data = page.rendered.session.data := by
  obtain ⟨markup, rendered, rendering, second⟩ := Action.bind_eq_ok.mp made
  obtain ⟨_, checked, checking, third⟩ := Action.bind_eq_ok.mp second
  obtain ⟨complete, scripted, scripting, processing⟩ := Action.bind_eq_ok.mp third
  obtain ⟨passed, _, checkedData⟩ := report_eq checking
  obtain ⟨authScripts, auth, rfl, scriptedData⟩ := addScripts_eq_ok scripting
  obtain ⟨processed, _, processedData⟩ := report_eq processing
  rw [checkedData] at processed
  refine ⟨⟨entry, before, rendered, markup, authScripts, text⟩, rfl, rfl, rfl,
    ⟨rendering, auth, processed, check_eq_ok passed⟩, ?_⟩
  rw [processedData, scriptedData, checkedData]

/-! ### Writing pages -/

variable {below : Path} {bytes : List UInt8}

/-- A page that is written changes one file in the staging folder. -/
theorem Filling.file?_written (filling : builder.Filling origin disk) (inner : below.IsInner)
    {grown : Disk} {places : List Location} (growth : Disk.Grown places disk grown)
    (written : Disk.write (builder.staging ++ below) bytes grown = .ok next) (rest : Location) :
    next.file? (origin.place builder.staging ++ rest)
      = if rest = below.segments then some bytes
        else disk.file? (origin.place builder.staging ++ rest) := by
  have here := growth.here.trans filling.changed.here
  rw [Disk.write_file? (builder.staging_append_ne_nil inner) written, Disk.place_append inner,
    Disk.place_eq_of_here here, growth.file?]
  simp only [List.append_right_inj]

/-- A place in the staging folder where nothing is stays free when a page is written elsewhere. -/
theorem Filling.look_written {first : Disk} (prepared : builder.Prepared first origin)
    (filling : builder.Filling origin disk) (inner : below.IsInner) {name : String}
    (elsewhere : below.segments.head? ≠ some name) {grown : Disk}
    (growth : Disk.Grown (disk.ways (builder.staging ++ below)) disk grown)
    (written : Disk.write (builder.staging ++ below) bytes grown = .ok next)
    (free : disk.look (origin.place builder.staging ++ [name]) = none) :
    next.look (origin.place builder.staging ++ [name]) = none := by
  have here := growth.here.trans filling.changed.here
  have notBelow : ¬ [name] <+: below.segments := by
    rintro ⟨rest, split⟩
    rw [← split] at elsewhere
    exact elsewhere rfl
  have still : grown.look (origin.place builder.staging ++ [name]) = none := by
    -- A folder made on the way to the page lies above the staging folder, or on the page's own way.
    rcases growth.look (origin.place builder.staging ++ [name]) with same | ⟨_, _, listed⟩
    · rw [same, free]
    · rcases Disk.ways_append inner listed with above | ⟨_, inside⟩
      · rw [Disk.ways_eq_of_here filling.changed.here] at above
        have outside := prepared.apart _ above
        rw [← Disk.place_eq_of_here prepared.here] at outside
        exact absurd (List.prefix_append _ _) outside
      · rw [Disk.place_eq_of_here filling.changed.here, List.prefix_append_right_inj] at inside
        exact absurd inside notBelow
  obtain ⟨_, other, _, view⟩ := Disk.write_eq_ok (builder.staging_append_ne_nil inner) written
  rw [Disk.place_append inner, Disk.place_eq_of_here here] at other view
  rw [view, View.graft_of_not_prefix, still]
  intro inside
  rw [List.prefix_append_right_inj] at inside
  -- The page is written below another name, so its graft does not reach the place.
  cases segments : below.segments with
  | nil =>
    rw [segments, List.append_nil] at other
    exact other (growth.look_folder filling.present)
  | cons first rest =>
    rw [segments] at inside notBelow
    have same := (List.cons_prefix_cons.mp inside).1
    exact notBelow ⟨rest, by rw [same]; rfl⟩

/-- What one page does to the disk and to the data. -/
theorem buildPage_eq_ok {path : Path} (prepared : builder.Prepared disk origin)
    (filling : builder.Filling origin before.disk)
    (inner : entry.component.outputPath.IsInner)
    (elsewhere : entry.component.outputPath.segments.head? ≠ some "assets")
    (free : before.disk.look (origin.place builder.staging ++ ["assets"]) = none)
    (built : builder.buildPage registry entry before = (.ok path, after)) :
    ∃ page : Page, page.entry = entry ∧ page.before = before ∧ page.Made builder registry ∧
      path = entry.component.outputPath ∧
      after.session.data = page.rendered.session.data ∧
      (∀ rest, after.disk.file? (origin.place builder.staging ++ rest)
        = if rest = page.location then some (encodeUtf8 page.text)
          else before.disk.file? (origin.place builder.staging ++ rest)) ∧
      after.disk.look (origin.place builder.staging ++ ["assets"]) = none := by
  rw [buildPage_eq] at built
  obtain ⟨text, made, making, second⟩ := Action.bind_eq_ok.mp built
  obtain ⟨_, parents, growing, third⟩ := Action.bind_eq_ok.mp second
  obtain ⟨_, written, writing, last⟩ := Action.bind_eq_ok.mp third
  cases last
  obtain ⟨page, rfl, rfl, rfl, sound, data⟩ := pageText_eq_ok making
  have same := pageText_disk making
  have growth := Disk.makeFolders_parent_grown (builder.staging_append_ne_nil inner) made.disk
  rw [onDisk_eq growing, same] at growth
  have wrote := Action.change_eq_ok.mp (onDisk_eq writing)
  refine ⟨page, rfl, rfl, sound, rfl, ?_, fun rest => ?_, ?_⟩
  · rw [onDisk_session writing, onDisk_session growing, data]
  · exact filling.file?_written inner growth wrote rest
  · exact filling.look_written prepared inner elsewhere growth wrote free

/-- The pages of a list, built in its order. Outside the staging folder they find the files that a
disk had at first. -/
structure Pages (builder : Builder) (registry : Registry) (disk : Disk)
    (data : Nat → Component.Data) (entries : List Registry.Entry) (pages : List Page) : Prop where
  entries : pages.map Page.entry = entries
  made : ∀ page ∈ pages, page.Made builder registry
  disk : ∀ page ∈ pages, ∀ location, ¬ disk.place builder.staging <+: location →
    page.before.disk.file? location = disk.file? location
  succeed : Page.Succeed data pages

theorem buildPages_eq_ok {entries : List Registry.Entry} {paths : List Path}
    (prepared : builder.Prepared disk origin) (filling : builder.Filling origin before.disk)
    (inner : ∀ entry ∈ entries, entry.component.outputPath.IsInner)
    (elsewhere : ∀ entry ∈ entries, entry.component.outputPath.segments.head? ≠ some "assets")
    (distinct : (entries.map fun entry => entry.component.outputPath.segments).Nodup)
    (free : before.disk.look (origin.place builder.staging ++ ["assets"]) = none)
    (built : builder.buildPages registry entries before = (.ok paths, after)) :
    ∃ pages, builder.Pages registry disk before.session.data entries pages ∧
      paths = entries.map (fun entry => entry.component.outputPath) ∧
      (∀ page ∈ pages, after.disk.file? (origin.place builder.staging ++ page.location)
        = some (encodeUtf8 page.text)) ∧
      (∀ rest, (∀ page ∈ pages, page.location ≠ rest) →
        after.disk.file? (origin.place builder.staging ++ rest)
          = before.disk.file? (origin.place builder.staging ++ rest)) ∧
      after.disk.look (origin.place builder.staging ++ ["assets"]) = none := by
  induction entries generalizing before paths with
  | nil =>
    cases built
    exact ⟨[], ⟨rfl, nofun, nofun, trivial⟩, rfl, nofun, fun _ _ => rfl, free⟩
  | cons entry entries ih =>
    obtain ⟨path, middle, first, second⟩ := Action.bind_eq_ok.mp built
    obtain ⟨others, _, rest, last⟩ := Action.bind_eq_ok.mp second
    cases last
    rw [List.map_cons, List.nodup_cons] at distinct
    have entryInner := inner entry List.mem_cons_self
    have step := prepared.keeps_buildPage registry entryInner before filling
    rw [first] at step
    obtain ⟨page, rfl, rfl, sound, rfl, data, files, stillFree⟩ := buildPage_eq_ok prepared filling
      entryInner (elsewhere entry List.mem_cons_self) free first
    obtain ⟨pages, ⟨listed, made, disks, succeed⟩, rfl, written, kept, lastFree⟩ := ih step
      (fun entry later => inner entry (List.mem_cons_of_mem _ later))
      (fun entry later => elsewhere entry (List.mem_cons_of_mem _ later)) distinct.2 stillFree rest
    -- No later page is written over this one.
    have unlike (other : Page) (later : other ∈ pages) : other.location ≠ page.location := by
      intro same
      refine distinct.1 (List.mem_map.mpr ⟨other.entry, ?_, same⟩)
      rw [← listed]
      exact List.mem_map_of_mem later
    refine ⟨page :: pages, ⟨by rw [List.map_cons, listed], ?_, ?_, ⟨rfl, data ▸ succeed⟩⟩, rfl, ?_,
      fun rest others => ?_, lastFree⟩
    · exact List.forall_mem_cons.mpr ⟨sound, made⟩
    · exact List.forall_mem_cons.mpr
        ⟨fun _ outside => prepared.file?_of_filling filling outside, disks⟩
    · refine List.forall_mem_cons.mpr ⟨?_, written⟩
      rw [kept _ unlike, files, if_pos rfl]
    · obtain ⟨differs, others⟩ := List.forall_mem_cons.mp others
      rw [kept rest others, files, if_neg (Ne.symm differs)]

/-! ### Assets -/

/-- Where the assets of the site are. -/
def assets (builder : Builder) : Path := builder.settings.resolve builder.settings.assetsFolder

/-- What copying the assets does to the staging folder. -/
theorem copyAssets_eq_ok (prepared : builder.Prepared disk origin)
    {filled : Disk} (filling : builder.Filling origin filled) (distinct : filled.Distinct)
    (free : filled.look (origin.place builder.staging ++ ["assets"]) = none)
    (copied : builder.copyAssets filled = (.ok (), next)) :
    (filled.isFolder builder.assets = false ∧ next = filled) ∨
      (filled.isFolder builder.assets = true ∧
        (∀ below, next.file? (origin.place builder.staging ++ "assets" :: below)
          = filled.file? (filled.place builder.assets ++ below)) ∧
        ∀ rest, rest.head? ≠ some "assets" →
          next.file? (origin.place builder.staging ++ rest)
            = filled.file? (origin.place builder.staging ++ rest)) := by
  obtain ⟨_, _, got, second⟩ := Action.bind_eq_ok.mp copied
  cases got
  have here : filled.place builder.staging = origin.place builder.staging :=
    Disk.place_eq_of_here filling.changed.here
  have target : filled.place (builder.staging.child "assets")
      = origin.place builder.staging ++ ["assets"] := by
    rw [← here]
    exact place_child isName_assets
  split at second
  · rename_i present
    refine .inr ⟨present, ?_⟩
    have nonempty : (builder.staging.child "assets").segments ≠ [] := by
      rw [child_of_isName isName_assets]
      exact List.append_ne_nil_of_right_ne_nil _ (List.cons_ne_nil _ _)
    -- The way to the copy goes through the staging folder and the folders above it.
    have apart (way : Location) (passed : way ∈ filled.ways (builder.staging.child "assets")) :
        ¬ filled.place (builder.staging.child "assets") <+: way := by
      rw [ways_child isName_assets] at passed
      rw [target]
      intro inside
      rcases List.mem_append.mp passed with above | last
      · rw [Disk.ways_eq_of_here filling.changed.here] at above
        have outside := prepared.apart way above
        rw [← Disk.place_eq_of_here prepared.here] at outside
        exact outside ((List.prefix_append _ _).trans inside)
      · rw [List.mem_singleton.mp last, here] at inside
        have length := inside.length_le
        rw [List.length_append, List.length_singleton] at length
        omega
    rw [← target] at free
    obtain ⟨node, grown, read, growth, _, view⟩ :=
      Disk.copyTree_eq_ok nonempty distinct free apart second
    rw [target] at view
    obtain ⟨opens, folder⟩ := Disk.isFolder_iff.mp present
    constructor
    · -- Below the copy stands what stands below the assets.
      intro below
      have found : filled.root.at? (filled.place builder.assets) = some node :=
        (Disk.node_eq_ok.mp read).2
      obtain ⟨entries, listed⟩ := Node.look_eq_folder.mp folder
      cases Option.some.inj (found.symm.trans listed)
      have split : origin.place builder.staging ++ "assets" :: below
          = origin.place builder.staging ++ ["assets"] ++ below := by simp
      have copy := Node.look_append filled.root (filled.place builder.assets) below
      rw [found, Option.bind_some] at copy
      refine View.file?_congr ?_
      rw [view, split, View.graft_append]
      exact copy.symm
    · -- Beside the copy nothing has changed but for folders on the way to it.
      intro rest elsewhere
      have outside : ¬ origin.place builder.staging ++ ["assets"] <+:
          origin.place builder.staging ++ rest := fun inside => by
        rw [List.prefix_append_right_inj] at inside
        obtain ⟨below, rfl⟩ := inside
        exact elsewhere rfl
      rw [← growth.file?]
      refine View.file?_congr ?_
      rw [view, View.graft_of_not_prefix _ _ outside]
  · rename_i absent
    cases second
    exact .inl ⟨(Bool.not_eq_true _).mp absent, rfl⟩

/-! ### Publication -/

/-- The staging folder takes the place of the target. -/
theorem publish_eq_ok (single : Path.IsName builder.env)
    (published : builder.publish disk = (.ok (), next)) :
    (∀ rest, next.look (disk.place builder.target ++ rest)
        = disk.look (disk.place builder.staging ++ rest)) ∧
      next.look (disk.place builder.staging) = none ∧
      ∀ location, ¬ disk.place builder.target <+: location →
        ¬ disk.place builder.staging <+: location → next.look location = disk.look location := by
  obtain ⟨_, cleared, clearing, moving⟩ := Action.bind_eq_ok.mp published
  have changed := clear_changed builder.target disk
  rw [clearing] at changed
  have filled : builder.target.segments ≠ [] := by
    rw [target, child_of_isName single]
    exact List.append_ne_nil_of_right_ne_nil _ (List.cons_ne_nil _ _)
  have stagingPlace : cleared.place builder.staging = disk.place builder.staging :=
    Disk.place_eq_of_here changed.here
  have targetPlace : cleared.place builder.target = disk.place builder.target :=
    Disk.place_eq_of_here changed.here
  -- Neither folder stands in the other one, so clearing the target leaves the staging.
  have outside : ¬ disk.place builder.target <+: disk.place builder.staging := fun inside =>
    target_not_prefix_staging single [] (by rwa [List.append_nil])
  have differs : cleared.place builder.staging ≠ cleared.place builder.target := fun same => by
    rw [stagingPlace, targetPlace] at same
    rw [same] at outside
    exact outside List.prefix_rfl
  obtain ⟨_, _, _, view⟩ := Disk.rename_eq_ok filled differs (Action.change_eq_ok.mp moving)
  rw [stagingPlace, targetPlace] at view
  refine ⟨fun rest => ?_, ?_, fun location aside apart => ?_⟩
  · rw [view, View.graft_append]
    exact changed.look _ (target_not_prefix_staging single rest)
  · rw [view, View.graft_of_not_prefix _ _ outside]
    exact View.graft_self _ _ _
  · rw [view, View.graft_of_not_prefix _ _ aside, View.graft_of_not_prefix _ _ apart]
    exact changed.look location aside

/-! ### The whole build -/

/-- Different pages go to different places, and none goes to the place of the assets. -/
def PagesSeparate (builder : Builder) (workspace : Workspace) : Prop :=
  ∀ registry, (builder.discover workspace).1 = .ok registry →
    (registry.pages.map fun entry => entry.component.outputPath).Nodup ∧
      ∀ entry ∈ registry.pages, entry.component.outputPath.segments.head? ≠ some "assets"

/-- Neither of the assets and the output folder contains the other, and the way to the assets does
not lead through the staging folder. -/
structure AssetsApart (builder : Builder) (disk : Disk) : Prop where
  outside : ¬ disk.place builder.assets <+: disk.place builder.outputRoot
  beyond : ¬ disk.place builder.outputRoot <+: disk.place builder.assets
  ways : ∀ way ∈ disk.ways builder.assets, ¬ disk.place builder.staging <+: way

/-- What a published site is: the files of the output are the pages and copies of the assets, the
staging folder is gone, and no other file has changed. -/
structure Published (builder : Builder) (pages : List Page) (before after : Disk) : Prop where
  page : ∀ page ∈ pages,
    after.file? (before.place builder.target ++ page.location) = some (encodeUtf8 page.text)
  asset : before.isFolder builder.assets = true → ∀ below,
    after.file? (before.place builder.target ++ "assets" :: below)
      = before.file? (before.place builder.assets ++ below)
  nothingElse : ∀ rest bytes, after.file? (before.place builder.target ++ rest) = some bytes →
    (∃ page ∈ pages, page.location = rest) ∨
      before.look (before.place builder.assets) = some .folder ∧ ∃ below, rest = "assets" :: below ∧
        before.file? (before.place builder.assets ++ below) = some bytes
  staging : after.look (before.place builder.staging) = none
  elsewhere : ∀ location, ¬ before.place builder.target <+: location →
    ¬ before.place builder.staging <+: location → after.file? location = before.file? location

theorem AssetsApart.not_prefix (apart : builder.AssetsApart disk) (single : Path.IsName builder.env)
    (below : Location) : ¬ disk.place builder.staging <+: disk.place builder.assets ++ below := by
  have place : disk.place builder.staging
      = disk.place builder.outputRoot ++ [".staging-" ++ builder.env] :=
    place_child (isName_staging single)
  intro inside
  rcases List.prefix_or_prefix_of_prefix inside (List.prefix_append _ below) with lower | upper
  · rw [place] at lower
    exact apart.beyond ((List.prefix_append _ _).trans lower)
  · rw [place, List.prefix_concat_iff] at upper
    rcases upper with same | above
    · exact apart.beyond (by rw [same]; exact List.prefix_append _ _)
    · exact apart.outside above

/-- The assets are found as well when the staging folder is filled, if they were found at first. -/
theorem AssetsApart.isFolder (apart : builder.AssetsApart disk) (single : Path.IsName builder.env)
    (prepared : builder.Prepared disk origin) (filling : builder.Filling origin next)
    (present : disk.isFolder builder.assets = true) : next.isFolder builder.assets = true := by
  obtain ⟨opens, folder⟩ := Disk.isFolder_iff.mp present
  have here := filling.changed.here.trans prepared.here
  have changed := filling.changed
  rw [Disk.place_eq_of_here prepared.here] at changed
  -- Only the staging folder and folders on the way to it have changed since.
  have kept (location : Location) (outside : ¬ disk.place builder.staging <+: location)
      (was : disk.look location = some .folder) : next.look location = some .folder := by
    rw [changed.look location outside]
    rcases prepared.outside location outside with same | ⟨missing, _⟩
    · rw [same, was]
    · rw [missing] at was
      cases was
  refine Disk.isFolder_iff.mpr ⟨⟨opens.legal, fun way passed => ?_⟩, ?_⟩
  · rw [Disk.ways_eq_of_here here] at passed
    exact kept way (apart.ways way passed) (opens.passable way passed)
  · rw [Disk.place_eq_of_here here]
    refine kept _ (fun inside => ?_) folder
    exact apart.not_prefix single [] (by rwa [List.append_nil])

/-- If the assets are found when the staging folder is filled, and a file is among them that was there
at first, then they stood in a folder at first. -/
theorem AssetsApart.look_assets (apart : builder.AssetsApart disk) (single : Path.IsName builder.env)
    (prepared : builder.Prepared disk origin) (filling : builder.Filling origin next)
    (present : next.isFolder builder.assets = true) {below : Location} {bytes : List UInt8}
    (found : disk.file? (disk.place builder.assets ++ below) = some bytes) :
    disk.look (disk.place builder.assets) = some .folder := by
  have folder := (Disk.isFolder_iff.mp present).2
  have changed := filling.changed
  rw [Disk.place_eq_of_here (changed.here.trans prepared.here)] at folder
  rw [Disk.place_eq_of_here prepared.here] at changed
  have outside : ¬ disk.place builder.staging <+: disk.place builder.assets := by
    have aside := apart.not_prefix single []
    rwa [List.append_nil] at aside
  rw [changed.look _ outside] at folder
  rcases prepared.outside _ outside with same | ⟨missing, _⟩
  · rw [← same, folder]
  · -- Nothing stands below a place that is missing.
    have nothing : disk.root.at? (disk.place builder.assets) = none :=
      Option.map_eq_none_iff.mp missing
    have absent : disk.look (disk.place builder.assets ++ below) = none := by
      show disk.root.look _ = none
      rw [Node.look_append, nothing]
      rfl
    cases (View.file?_of_none absent).symm.trans found

theorem keeps_distinct_prepare (builder : Builder) : Action.Keeps Disk.Distinct builder.prepare := by
  refine .bind (.bind .get fun disk => ?_) fun _ => Disk.keeps_distinct_makeNewFolder _
  split
  · exact Disk.keeps_distinct_removeTree _
  · exact .pure _

theorem keeps_distinct_buildPages (builder : Builder) (registry : Registry)
    (entries : List Registry.Entry) :
    Action.Keeps (fun workspace => workspace.disk.Distinct) (builder.buildPages registry entries) := by
  have one (entry : Registry.Entry) :
      Action.Keeps (fun workspace => workspace.disk.Distinct) (builder.buildPage registry entry) := by
    rw [buildPage_eq]
    refine .bind (keeps_pageText _ registry entry) fun text => ?_
    refine .bind (keeps_onDisk (Disk.keeps_distinct_makeFolders _)) fun _ => ?_
    exact .bind (keeps_onDisk (.change fun _ _ distinct written => distinct.write written))
      fun _ => .pure _
  induction entries with
  | nil => exact .pure _
  | cons entry entries ih => exact .bind (one entry) fun path => .bind ih fun _ => .pure _

theorem nodup_segments {entries : List Registry.Entry}
    (inner : ∀ entry ∈ entries, entry.component.outputPath.IsInner)
    (distinct : (entries.map fun entry => entry.component.outputPath).Nodup) :
    (entries.map fun entry => entry.component.outputPath.segments).Nodup := by
  rw [List.Nodup, List.pairwise_map] at distinct ⊢
  refine distinct.imp_of_mem fun first second differs same => differs ?_
  exact (inner _ first).ext (inner _ second) same

/-- The files of the output when the staging folder has taken its place. -/
theorem fill_published {pages : List Page} {built filled : Disk} (single : Path.IsName builder.env)
    (apart : builder.AssetsApart disk) (prepared : builder.Prepared disk origin)
    (filling : builder.Filling origin built) (distinct : built.Distinct)
    (free : built.look (origin.place builder.staging ++ ["assets"]) = none)
    (elsewhere : ∀ page ∈ pages, page.location.head? ≠ some "assets")
    (written : ∀ page ∈ pages, built.file? (origin.place builder.staging ++ page.location)
      = some (encodeUtf8 page.text))
    (nothing : ∀ rest, (∀ page ∈ pages, page.location ≠ rest) →
      built.file? (origin.place builder.staging ++ rest) = none)
    (copied : builder.copyAssets built = (.ok (), filled))
    (published : builder.publish filled = (.ok (), next)) :
    builder.Published pages disk next := by
  have filledFilling := prepared.keeps_copyAssets built filling
  rw [copied] at filledFilling
  have builtHere := filling.changed.here.trans prepared.here
  have filledHere := filledFilling.changed.here.trans prepared.here
  have originStaging : origin.place builder.staging = disk.place builder.staging :=
    Disk.place_eq_of_here prepared.here
  have assetsFile (below : Location) : built.file? (built.place builder.assets ++ below)
      = disk.file? (disk.place builder.assets ++ below) := by
    rw [Disk.place_eq_of_here builtHere]
    exact prepared.file?_of_filling filling (apart.not_prefix single below)
  obtain ⟨moved, gone, kept⟩ := publish_eq_ok single published
  have stagingPlace : filled.place builder.staging = disk.place builder.staging :=
    Disk.place_eq_of_here filledHere
  have targetPlace : filled.place builder.target = disk.place builder.target :=
    Disk.place_eq_of_here filledHere
  rw [stagingPlace] at gone
  rw [stagingPlace, targetPlace] at moved kept
  -- The output holds what the staging folder held; both are named by their first places.
  have output (rest : Location) : next.file? (disk.place builder.target ++ rest)
      = filled.file? (origin.place builder.staging ++ rest) := by
    rw [originStaging]
    exact View.file?_congr (moved rest)
  have copies := copyAssets_eq_ok prepared filling distinct free copied
  refine ⟨fun page listed => ?_, fun present below => ?_, fun rest bytes found => ?_, gone,
    fun location aside outside => ?_⟩
  · -- Copying the assets left the pages, none of which stands among them.
    rw [output, ← written page listed]
    rcases copies with ⟨_, rfl⟩ | ⟨_, _, others⟩
    · rfl
    · exact others _ (elsewhere page listed)
  · rw [output]
    rcases copies with ⟨absent, _⟩ | ⟨_, assets, _⟩
    · rw [apart.isFolder single prepared filling present] at absent
      cases absent
    · rw [assets, assetsFile]
  · rw [output] at found
    -- What is no copy of an asset has been written as a page.
    have page (was : built.file? (origin.place builder.staging ++ rest) = some bytes) :
        ∃ page ∈ pages, page.location = rest := by
      by_contra none
      rw [nothing rest fun page listed same => none ⟨page, listed, same⟩] at was
      cases was
    rcases copies with ⟨_, rfl⟩ | ⟨present, assets, others⟩
    · exact .inl (page found)
    · by_cases head : rest.head? = some "assets"
      · obtain ⟨below, rfl⟩ := List.head?_eq_some_iff.mp head
        rw [assets, assetsFile] at found
        exact .inr ⟨apart.look_assets single prepared filling present found, below, rfl, found⟩
      · rw [others rest head] at found
        exact .inl (page found)
  · have same : next.file? location = filled.file? location :=
      View.file?_congr (kept location aside outside)
    rw [same]
    exact prepared.file?_of_filling filledFilling outside

/-- A build that succeeds publishes exactly the site. -/
theorem run_publishes {paths : List Path} (single : Path.IsName builder.env)
    (distinct : before.disk.Distinct) (inside : builder.PagesInside before)
    (separate : builder.PagesSeparate before) (apart : builder.AssetsApart before.disk)
    (ran : builder.run before = (.ok paths, after)) :
    ∃ registry pages, (builder.discover before).1 = .ok registry ∧
      paths = registry.pages.map (fun entry => builder.target ++ entry.component.outputPath) ∧
      builder.Pages registry before.disk (fun _ => .fresh) registry.pages pages ∧
      builder.Published pages before.disk after.disk := by
  rw [run_eq] at ran
  obtain ⟨written, filled, staged, second⟩ := Action.bind_eq_ok.mp ran
  obtain ⟨_, done, publishing, last⟩ := Action.bind_eq_ok.mp second
  cases last
  obtain ⟨registry, found, ready, searched, prepared, reset, preparing, filling⟩ := stage_eq_ok staged
  obtain ⟨_, built, building, third⟩ := Action.bind_eq_ok.mp filling
  obtain ⟨_, _, copying, last⟩ := Action.bind_eq_ok.mp third
  cases last
  have searched : (builder.discover before).1 = .ok registry := by rw [searched]
  -- The staging folder is fresh, so after the pages it holds these and nothing else.
  have inner := inside registry searched
  obtain ⟨different, elsewhere⟩ := separate registry searched
  have originStaging : ready.disk.place builder.staging = before.disk.place builder.staging :=
    Disk.place_eq_of_here prepared.here
  have bare (rest : Location) :
      ready.disk.look (ready.disk.place builder.staging ++ rest) = Node.empty.look rest := by
    rw [originStaging]
    exact prepared.inside rest
  obtain ⟨pages, sequence, rfl, files, nothing, free⟩ := buildPages_eq_ok prepared prepared.filling
    inner elsewhere (nodup_segments inner different) (bare ["assets"]) building
  have builtFilling := prepared.keeps_buildPages registry inner ready prepared.filling
  have readyDistinct := builder.keeps_distinct_prepare before.disk distinct
  rw [preparing] at readyDistinct
  have builtDistinct := builder.keeps_distinct_buildPages registry registry.pages ready readyDistinct
  rw [building] at builtFilling builtDistinct
  have pageElsewhere (page : Page) (listed : page ∈ pages) :
      page.location.head? ≠ some "assets" := by
    refine elsewhere page.entry ?_
    rw [← sequence.entries]
    exact List.mem_map_of_mem listed
  -- The folder itself is no file.
  have absent (rest : Location) (unlike : ∀ page ∈ pages, page.location ≠ rest) :
      built.disk.file? (ready.disk.place builder.staging ++ rest) = none := by
    rw [nothing rest unlike]
    have view := bare rest
    cases rest with
    | nil => exact View.file?_of_folder view
    | cons name rest => exact View.file?_of_none view
  have data : ready.session.data = fun _ => .fresh := by rw [reset]; rfl
  rw [data] at sequence
  refine ⟨registry, pages, searched, by rw [List.map_map]; rfl, sequence, ?_⟩
  exact fill_published single apart prepared builtFilling builtDistinct free pageElsewhere files absent
    (onDisk_eq copying) (onDisk_eq publishing)

/-- The small site with the page `x` is published. -/
theorem run_publishes_small :
    (smallBuilder.run (smallWorkspace [120])).1.isOk = true ∧
      ∃ pages, smallBuilder.Published pages (smallWorkspace [120]).disk
        (smallBuilder.run (smallWorkspace [120])).2.disk := by
  have ok : (smallBuilder.run (smallWorkspace [120])).1.isOk = true := by
    rw [run, Action.bind_of_ok (discover_small [120])]
    decide +kernel
  have single : Path.IsName smallBuilder.env := ⟨by decide, by decide, by decide, by decide⟩
  have distinct : (smallWorkspace [120]).disk.Distinct := by
    simp [Disk.Distinct, smallWorkspace, smallFolder, Node.Distinct, Node.DistinctEach]
  have apart : smallBuilder.AssetsApart (smallWorkspace [120]).disk := by
    have assets : (smallWorkspace [120]).disk.place smallBuilder.assets = ["a"] := by decide +kernel
    have output : (smallWorkspace [120]).disk.place smallBuilder.outputRoot = ["p"] := by
      decide +kernel
    have ways : (smallWorkspace [120]).disk.ways smallBuilder.assets = [[]] := by decide +kernel
    have staging : (smallWorkspace [120]).disk.place smallBuilder.staging = ["p", ".staging-d"] := by
      decide +kernel
    refine ⟨?_, ?_, ?_⟩
    · rw [assets, output]
      decide
    · rw [assets, output]
      decide
    · rw [ways, staging]
      simp
  have separate : smallBuilder.PagesSeparate (smallWorkspace [120]) := by
    intro registry found
    rw [discover_small] at found
    cases found
    have path : (smallPage [120]).outputPath = ⟨0, ["b", "index.html"]⟩ := by decide +kernel
    have isPage : (smallPage [120]).isPage = true := by decide +kernel
    have pages : Registry.pages ⟨[smallPage [120]]⟩ = [⟨0, smallPage [120]⟩] := by
      simp [Registry.pages, Registry.entries, isPage]
    rw [pages, List.map_singleton, List.forall_mem_singleton, path]
    exact ⟨List.pairwise_singleton _ _, by decide⟩
  -- The theorem is about the result of a run, so the run has to be named first.
  cases ended : smallBuilder.run (smallWorkspace [120]) with
  | mk outcome after =>
    rw [ended] at ok
    cases outcome with
    | error fault => cases ok
    | ok paths =>
      obtain ⟨_, pages, _, _, _, published⟩ :=
        run_publishes single distinct (pagesInside_small [120]) separate apart ended
      exact ⟨rfl, pages, published⟩

end StaticSite.Builder
