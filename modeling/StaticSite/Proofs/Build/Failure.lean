import StaticSite.Proofs.Build.Staging

/-!
# Builds that fail

A build that fails should leave no staging folder and all other files as they were. It does so when
it fails before its output is published, unless it fails in the search for components while there
is a staging folder from before. It does not when it fails later, because nothing takes the staging
folder away by then; and if nothing is in the way of the output, it does not fail later.
-/

namespace StaticSite.Builder

variable {builder : Builder} {before after : Workspace} {origin disk next : Disk} {fault : Fault}

/-! ### What is left -/

/-- No staging folder, and no other file than before outside of it. -/
structure Unharmed (builder : Builder) (before after : Disk) : Prop where
  gone : after.isFolder builder.staging = false
  kept : ∀ location, (before.place builder.staging <+: location →
    location = before.place builder.staging) → after.file? location = before.file? location

/-- The way to the staging folder does not lead through it, and a staging folder from before can be
reached. -/
structure OwnsStaging (builder : Builder) (disk : Disk) : Prop where
  apart : ∀ way ∈ disk.ways builder.staging, ¬ disk.place builder.staging <+: way
  reached : disk.look (disk.place builder.staging) = some .folder → disk.Opens builder.staging

/-- Neither the target nor the staging folder lies in the other one, or on a way into itself or the
other one. -/
structure Apart (builder : Builder) (disk : Disk) : Prop where
  targetOutside : ¬ disk.place builder.staging <+: disk.place builder.target
  stagingOutside : ¬ disk.place builder.target <+: disk.place builder.staging
  stagingWays : ∀ way ∈ disk.ways builder.staging, ¬ disk.place builder.target <+: way
  targetWays : ∀ way ∈ disk.ways builder.target,
    ¬ disk.place builder.staging <+: way ∧ ¬ disk.place builder.target <+: way

/-! An environment that is a single name keeps the two folders apart, and so does an output folder
whose path never leads upwards. -/

theorem stop_of_plain {path : Path} {stop : Location} (plain : ".." ∉ path.segments)
    (passed : stop ∈ disk.stops path) : stop <+: disk.place path := by
  have place : disk.place path = disk.start path ++ path.segments := Location.resolve_of_plain plain
  rcases List.mem_append.mp passed with passed | last
  · rw [place]
    exact Location.mem_ways_of_plain plain passed
  · rw [List.mem_singleton.mp last]

theorem not_prefix_of_stop {path : Path} {name : String} {stop : Location}
    (plain : ".." ∉ path.segments) (passed : stop ∈ disk.stops path) :
    ¬ disk.place path ++ [name] <+: stop := by
  intro inside
  have short := (stop_of_plain plain passed).length_le
  have long := inside.length_le
  rw [List.length_append, List.length_singleton] at long
  omega

theorem OwnsStaging.of_plain (single : Path.IsName builder.env)
    (plain : ".." ∉ builder.outputRoot.segments)
    (reached : disk.look (disk.place builder.staging) = some .folder →
      disk.Opens builder.staging) : builder.OwnsStaging disk := by
  refine ⟨fun way passed => ?_, reached⟩
  rw [staging, ways_child (isName_staging single)] at passed
  rw [staging, place_child (isName_staging single)]
  exact not_prefix_of_stop plain passed

theorem Apart.of_plain (single : Path.IsName builder.env)
    (plain : ".." ∉ builder.outputRoot.segments) : builder.Apart disk := by
  -- Both folders stand in the output folder, and the way to them is the way to it.
  have stagingPlace : disk.place builder.staging
      = disk.place builder.outputRoot ++ [".staging-" ++ builder.env] :=
    place_child (isName_staging single)
  have targetPlace : disk.place builder.target = disk.place builder.outputRoot ++ [builder.env] :=
    place_child single
  have stagingWays : disk.ways builder.staging = disk.stops builder.outputRoot :=
    ways_child (isName_staging single)
  have targetWays : disk.ways builder.target = disk.stops builder.outputRoot := ways_child single
  refine ⟨fun inside => ?_, fun inside => ?_, fun way passed => ?_, fun way passed => ?_⟩
  · exact staging_not_prefix_target single [] (by rwa [List.append_nil])
  · exact target_not_prefix_staging single [] (by rwa [List.append_nil])
  · rw [stagingWays] at passed
    rw [targetPlace]
    exact not_prefix_of_stop plain passed
  · rw [targetWays] at passed
    rw [stagingPlace, targetPlace]
    exact ⟨not_prefix_of_stop plain passed, not_prefix_of_stop plain passed⟩

/-- Nothing is in the way of the output: no file stands at its place, and the folders on the way
are there or are made with the staging folder. -/
structure TargetFree (builder : Builder) (disk : Disk) : Prop where
  legal : (builder.target.segments.any fun segment => segment.toList.elem '\x00') = false
  passable : ∀ way ∈ disk.ways builder.target,
    disk.look way = some .folder ∨ way ∈ disk.ways builder.staging
  noFile : disk.file? (disk.place builder.target) = none

/-! ### Before publication -/

theorem isFolder_eq_false {path : Path} (other : disk.look (disk.place path) ≠ some .folder) :
    disk.isFolder path = false := by
  cases found : disk.isFolder path with
  | false => rfl
  | true => exact absurd (Disk.isFolder_iff.mp found).2 other

theorem place_ne_nil {path : Path} (filled : path.segments ≠ [])
    (apart : ∀ way ∈ disk.ways path, ¬ disk.place path <+: way) : disk.place path ≠ [] := by
  intro top
  rw [top] at apart
  cases segments : path.segments with
  | nil => exact filled segments
  | cons segment rest =>
    have first : disk.start path ∈ disk.ways path := by
      rw [Disk.ways, segments]
      exact List.mem_cons_self
    exact apart _ first List.nil_prefix

theorem Unharmed.refl (absent : disk.isFolder builder.staging = false) :
    builder.Unharmed disk disk :=
  ⟨absent, fun _ _ => rfl⟩

/-- Nothing is lost when no file stood at the staging folder itself. -/
theorem Unharmed.of_outside
    (other : next.look (next.place builder.staging) ≠ some .folder)
    (outside : ∀ location, ¬ disk.place builder.staging <+: location →
      next.file? location = disk.file? location)
    (same : next.file? (disk.place builder.staging) = disk.file? (disk.place builder.staging)) :
    builder.Unharmed disk next := by
  refine ⟨isFolder_eq_false other, fun location at_ => ?_⟩
  by_cases inside : disk.place builder.staging <+: location
  · rw [at_ inside]
    exact same
  · exact outside location inside

theorem clear_eq_error {path : Path} (apart : ∀ way ∈ disk.ways path, ¬ disk.place path <+: way)
    (filled : path.segments ≠ []) (failed : clear path disk = (.error fault, next)) :
    next = disk ∧ disk.look (disk.place path) ≠ some .folder := by
  rcases Action.bind_eq_error.mp failed with impossible | ⟨seen, _, got, clearing⟩
  · exact absurd impossible (by simp [Action.get])
  cases got
  split at clearing
  · rename_i present
    obtain ⟨opens, _⟩ := Disk.contains_iff.mp present
    have other : disk.look (disk.place path) ≠ some .folder := fun folder => by
      obtain ⟨_, removed⟩ := opens.removeTree (place_ne_nil filled apart) folder apart
      rw [removed] at clearing
      exact absurd clearing (by simp)
    refine ⟨?_, other⟩
    rcases Action.bind_eq_error.mp clearing with failed | ⟨_, _, emptied, _⟩
    · exact (Action.change_eq_error.mp failed).2
    · exact absurd (Disk.emptyFolder_eq_ok (Action.change_eq_ok.mp emptied)).2.1 other
  · exact absurd clearing (by simp)

/-- Folders on the way may be new when the staging folder could not be made. -/
theorem OwnsStaging.prepare_eq_error (own : builder.OwnsStaging disk)
    (failed : builder.prepare disk = (.error fault, next)) : builder.Unharmed disk next := by
  have filled := builder.staging_segments_ne_nil
  rcases Action.bind_eq_error.mp failed with unclear | ⟨_, cleared, clearing, making⟩
  · -- What stood at the staging folder could not be cleared, and is no folder.
    obtain ⟨rfl, other⟩ := clear_eq_error own.apart filled unclear
    exact .refl (isFolder_eq_false other)
  · -- The folder could not be made: at most folders on the way to it are new.
    have growth := Disk.makeNewFolder_eq_error filled making
    have unlisted (here : cleared.here = disk.here) :
        disk.place builder.staging ∉ cleared.ways builder.staging := fun passed => by
      rw [Disk.ways_eq_of_here here] at passed
      exact own.apart _ passed List.prefix_rfl
    rcases clear_eq_ok clearing with ⟨rfl, absent⟩ | removed
    · refine .of_outside ?_ (fun location _ => growth.file? location) (growth.file? _)
      rw [Disk.place_eq_of_here growth.here, growth.look_of_notMem (unlisted rfl)]
      intro present
      have found := Disk.contains_iff.mpr ⟨own.reached present, by rw [present]; exact nofun⟩
      rw [found] at absent
      cases absent
    · obtain ⟨_, _, present, here, view⟩ := Disk.removeTree_eq_ok removed
      have changed := Disk.ChangedBelow.of_graft here view
      have gone : cleared.look (disk.place builder.staging) = none := by
        rw [view]
        exact View.graft_self _ _ _
      refine .of_outside ?_ (fun location outside => ?_) ?_
      · rw [Disk.place_eq_of_here (growth.here.trans here), growth.look_of_notMem (unlisted here), gone]
        exact nofun
      · exact (growth.file? location).trans (changed.file? outside)
      · rw [growth.file?]
        exact (View.file?_of_none gone).trans (View.file?_of_folder present).symm

/-- The staging folder is taken away with what was put into it. -/
theorem Prepared.unharmed (prepared : builder.Prepared disk origin)
    (filling : builder.Filling origin next) :
    ∃ left, Disk.removeTree builder.staging next = (.ok (), left) ∧ builder.Unharmed disk left := by
  have here := filling.changed.here.trans prepared.here
  have place : next.place builder.staging = disk.place builder.staging := Disk.place_eq_of_here here
  have origins : origin.place builder.staging = disk.place builder.staging :=
    Disk.place_eq_of_here prepared.here
  have present := filling.present
  have changed := filling.changed
  rw [origins] at present changed
  -- The way to the staging folder does not lead through it, so removing it does not cut the way.
  have apart (way : Location) (passed : way ∈ next.ways builder.staging) :
      ¬ next.place builder.staging <+: way := by
    rw [Disk.ways_eq_of_here filling.changed.here] at passed
    rw [place]
    exact prepared.apart way passed
  have opens := prepared.opens_filling filling
  have stands : next.look (next.place builder.staging) = some .folder := by
    rw [place]
    exact present
  obtain ⟨left, removed⟩ := opens.removeTree
    (place_ne_nil builder.staging_segments_ne_nil apart) stands apart
  obtain ⟨_, _, _, leftHere, view⟩ := Disk.removeTree_eq_ok removed
  rw [place] at view
  have gone : left.look (disk.place builder.staging) = none := by
    rw [view]
    exact View.graft_self _ _ _
  refine ⟨left, removed, .of_outside ?_ (fun location apart => ?_) ?_⟩
  · rw [Disk.place_eq_of_here (leftHere.trans here), gone]
    exact nofun
  · rw [(Disk.ChangedBelow.of_graft leftHere view).file? apart]
    exact prepared.file?_of_filling filling apart
  · rw [prepared.replaced]
    exact View.file?_of_none gone

theorem OwnsStaging.stage_eq_error (own : builder.OwnsStaging before.disk)
    (inside : builder.PagesInside before) (failed : builder.stage before = (.error fault, after)) :
    (after.disk = before.disk ∧ ∃ fault, (builder.discover before).1 = .error fault) ∨
      (builder.Unharmed before.disk after.disk ∧
        ∃ registry, (builder.discover before).1 = .ok registry) := by
  -- A fault is one of the search, of the preparation or of the filling, in this order.
  have foundDisk := builder.discover_disk before
  rcases Action.bind_eq_error.mp failed with lost | ⟨registry, found, searched, failed⟩
  · rw [lost] at foundDisk
    exact .inl ⟨foundDisk, fault, by rw [lost]⟩
  refine .inr ⟨?_, registry, by rw [searched]⟩
  rw [searched] at foundDisk
  rcases Action.bind_eq_error.mp failed with impossible | ⟨_, reset, resetting, failed⟩
  · cases impossible
  have resetDisk := (inSession_disk resetting).trans foundDisk
  rcases Action.bind_eq_error.mp failed with unprepared | ⟨_, ready, preparing, failed⟩
  · have unprepared := onDisk_eq unprepared
    rw [resetDisk] at unprepared
    exact own.prepare_eq_error unprepared
  have prepared := prepare_eq_ok (onDisk_eq preparing)
  rw [resetDisk] at prepared
  have inner := inside registry (by rw [searched])
  have kept := prepared.keeps_fill inner ready (prepared.filling)
  obtain ⟨stopped, run, rfl⟩ := Action.onFault_eq_error.mp failed
  rw [run] at kept
  obtain ⟨left, removed, unharmed⟩ := prepared.unharmed kept
  rw [onDisk_snd, removed]
  exact unharmed

/-! ### Publication -/

/-- A publication that fails has changed the target at most. -/
theorem publish_eq_error (failed : builder.publish disk = (.error fault, next)) :
    Disk.ChangedBelow (disk.place builder.target) disk next := by
  have changed := clear_changed builder.target disk
  rcases Action.bind_eq_error.mp failed with unclear | ⟨_, cleared, clearing, moving⟩
  · rw [unclear] at changed
    exact changed
  · rw [clearing] at changed
    obtain ⟨_, rfl⟩ := Action.change_eq_error.mp moving
    exact changed

/-- The target can be reached when the staging folder is filled. -/
theorem TargetFree.opens (free : builder.TargetFree disk) (apart : builder.Apart disk)
    (prepared : builder.Prepared disk origin) (filling : builder.Filling origin next) :
    next.Opens builder.target := by
  refine ⟨free.legal, fun way passed => ?_⟩
  have here := filling.changed.here.trans prepared.here
  rw [Disk.ways_eq_of_here here] at passed
  rcases free.passable way passed with present | made
  · have outside := (apart.targetWays way passed).1
    have changed := filling.changed
    rw [Disk.place_eq_of_here prepared.here] at changed
    rw [changed.look way outside]
    rcases prepared.outside way outside with same | ⟨missing, _⟩
    · rw [same, present]
    · rw [missing] at present
      cases present
  · rw [← Disk.ways_eq_of_here here] at made
    exact (prepared.opens_filling filling).passable way made

/-- No file is at the target when the staging folder is filled. -/
theorem TargetFree.look (free : builder.TargetFree disk) (apart : builder.Apart disk)
    (prepared : builder.Prepared disk origin) (filling : builder.Filling origin next) :
    next.look (disk.place builder.target) = none ∨
      next.look (disk.place builder.target) = some .folder := by
  have changed := filling.changed
  rw [Disk.place_eq_of_here prepared.here] at changed
  have same : next.file? (disk.place builder.target) = none := by
    rw [prepared.file?_of_filling filling apart.targetOutside, free.noFile]
  unfold Disk.file? View.file? at same
  cases found : next.look (disk.place builder.target) with
  | none => exact .inl rfl
  | some kind =>
    cases kind with
    | folder => exact .inr rfl
    | file bytes => simp [found] at same

theorem Apart.of_here (apart : builder.Apart disk) (same : next.here = disk.here) :
    builder.Apart next := by
  have staging : next.place builder.staging = disk.place builder.staging :=
    Disk.place_eq_of_here same
  have target : next.place builder.target = disk.place builder.target := Disk.place_eq_of_here same
  refine ⟨?_, ?_, fun way passed => ?_, fun way passed => ?_⟩
  · rw [staging, target]
    exact apart.targetOutside
  · rw [staging, target]
    exact apart.stagingOutside
  · rw [Disk.ways_eq_of_here same] at passed
    rw [target]
    exact apart.stagingWays way passed
  · rw [Disk.ways_eq_of_here same] at passed
    rw [staging, target]
    exact apart.targetWays way passed

theorem clear_of_free {path : Path} (opens : disk.Opens path) (deep : disk.place path ≠ [])
    (apart : ∀ way ∈ disk.ways path, ¬ disk.place path <+: way)
    (free : disk.look (disk.place path) = none ∨ disk.look (disk.place path) = some .folder) :
    ∃ cleared, clear path disk = (.ok (), cleared) ∧ cleared.look (disk.place path) = none := by
  have get : Action.get disk = (.ok disk, disk) := rfl
  unfold clear
  rw [Action.bind_of_ok get]
  rcases free with vacant | folder
  · -- Nothing is removed where nothing stands.
    have absent : ¬ disk.contains path = true := fun found =>
      (Disk.contains_iff.mp found).2 vacant
    rw [if_neg absent]
    exact ⟨disk, rfl, vacant⟩
  · have found : disk.contains path = true :=
      Disk.contains_iff.mpr ⟨opens, by rw [folder]; exact nofun⟩
    obtain ⟨cleared, removed⟩ := opens.removeTree deep folder apart
    obtain ⟨_, _, _, _, view⟩ := Disk.removeTree_eq_ok removed
    rw [if_pos found]
    refine ⟨cleared, removed, ?_⟩
    rw [view]
    exact View.graft_self _ _ _

theorem Apart.publish (apart : builder.Apart disk) (opensStaging : disk.Opens builder.staging)
    (opensTarget : disk.Opens builder.target)
    (present : disk.look (disk.place builder.staging) = some .folder)
    (free : disk.look (disk.place builder.target) = none ∨
      disk.look (disk.place builder.target) = some .folder) :
    ∃ after, builder.publish disk = (.ok (), after) := by
  have deepStaging : disk.place builder.staging ≠ [] := fun top => by
    have outside := apart.targetOutside
    rw [top] at outside
    exact outside List.nil_prefix
  have deepTarget : disk.place builder.target ≠ [] := fun top => by
    have outside := apart.stagingOutside
    rw [top] at outside
    exact outside List.nil_prefix
  -- Clearing the target leaves the staging folder and the ways to both of them.
  obtain ⟨cleared, clearing, vacant⟩ := clear_of_free opensTarget deepTarget
    (fun way passed => (apart.targetWays way passed).2) free
  have changed := clear_changed builder.target disk
  rw [clearing] at changed
  have staging : cleared.place builder.staging = disk.place builder.staging :=
    Disk.place_eq_of_here changed.here
  have target : cleared.place builder.target = disk.place builder.target :=
    Disk.place_eq_of_here changed.here
  have still : cleared.look (disk.place builder.staging) ≠ none := by
    rw [changed.look _ apart.stagingOutside, present]
    exact nofun
  have sourceOpens := changed.opens opensStaging apart.stagingWays
  have targetOpens := changed.opens opensTarget fun way passed => (apart.targetWays way passed).2
  have outside := apart.targetOutside
  rw [← staging] at still deepStaging outside
  rw [← target] at vacant deepTarget outside
  obtain ⟨after, moved⟩ :=
    sourceOpens.rename targetOpens still vacant deepStaging deepTarget outside
  refine ⟨after, ?_⟩
  unfold Builder.publish
  rw [Action.bind_of_ok clearing]
  exact Action.change_eq_ok.mpr moved

/-! ### The whole build -/

/-- A failed publication leaves the staging folder behind. -/
theorem not_unharmed_of_publish (apart : builder.Apart disk)
    (opens : disk.Opens builder.staging)
    (present : disk.look (disk.place builder.staging) = some .folder)
    (failed : builder.publish disk = (.error fault, next)) :
    next.isFolder builder.staging = true := by
  have changed := publish_eq_error failed
  refine Disk.isFolder_iff.mpr ⟨changed.opens opens apart.stagingWays, ?_⟩
  rw [Disk.place_eq_of_here changed.here, changed.look _ apart.stagingOutside]
  exact present

theorem not_targetFree_of_publish (apart : builder.Apart disk)
    (prepared : builder.Prepared disk origin) (filling : builder.Filling origin next)
    {after : Disk} (failed : builder.publish next = (.error fault, after)) :
    ¬ builder.TargetFree disk := by
  intro free
  have here := filling.changed.here.trans prepared.here
  have look := free.look apart prepared filling
  rw [← Disk.place_eq_of_here here] at look
  have present := filling.present
  rw [← Disk.place_eq_of_here filling.changed.here] at present
  obtain ⟨_, published⟩ := (apart.of_here here).publish (prepared.opens_filling filling)
    (free.opens apart prepared filling) present look
  rw [published] at failed
  exact absurd failed (by simp)

/-- A failed build leaves no staging folder and all other files as they were, exactly if there was no
staging folder when the search for components failed, and nothing was in the way of the output when
all pages were done. -/
theorem run_unharmed_iff (own : builder.OwnsStaging before.disk)
    (inside : builder.PagesInside before)
    (apart : (builder.stage before).1.isOk = true → builder.Apart before.disk)
    (failed : builder.run before = (.error fault, after)) :
    builder.Unharmed before.disk after.disk ↔
      ((builder.discover before).1.isOk = false →
        before.disk.isFolder builder.staging = false) ∧
      ((builder.stage before).1.isOk = true → builder.TargetFree before.disk) := by
  rw [run_eq] at failed
  rcases Action.bind_eq_error.mp failed with unstaged | ⟨written, filled, staged, publishing⟩
  · -- The build fails before its publication.
    have noStage : (builder.stage before).1.isOk ≠ true := by
      rw [unstaged]
      exact nofun
    rcases own.stage_eq_error inside unstaged with ⟨same, _, lost⟩ | ⟨unharmed, _, found⟩
    · rw [same, lost]
      constructor
      · exact fun unharmed => ⟨fun _ => unharmed.gone, fun ok => absurd ok noStage⟩
      · exact fun ⟨absent, _⟩ => .refl (absent rfl)
    · constructor
      · refine fun _ => ⟨fun lost => ?_, fun ok => absurd ok noStage⟩
        rw [found] at lost
        cases lost
      · exact fun _ => unharmed
  · -- The build fails in its publication.
    have stageOk : (builder.stage before).1.isOk = true := by
      rw [staged]
      rfl
    have separate := apart stageOk
    obtain ⟨origin, prepared, filling⟩ := stage_filling inside staged
    have here := filling.changed.here.trans prepared.here
    have present := filling.present
    rw [← Disk.place_eq_of_here filling.changed.here] at present
    rcases Action.bind_eq_error.mp publishing with unpublished | ⟨_, _, _, impossible⟩
    · have unpublished := onDisk_eq unpublished
      constructor
      · intro unharmed
        have left := not_unharmed_of_publish (separate.of_here here) (prepared.opens_filling filling)
          present unpublished
        rw [unharmed.gone] at left
        cases left
      · exact fun ⟨_, free⟩ =>
          absurd (free stageOk) (not_targetFree_of_publish separate prepared filling unpublished)
    · cases impossible

/-- The small site with a page that is no text fails, and keeps the file of its earlier build. -/
theorem run_unharmed_iff_small :
    (smallBuilder.run (smallWorkspace [255])).1.isOk = false ∧
      smallBuilder.Unharmed (smallWorkspace [255]).disk
        (smallBuilder.run (smallWorkspace [255])).2.disk := by
  have stops : (smallBuilder.run (smallWorkspace [255])).1.isOk = false := by
    rw [run, Action.bind_of_ok (discover_small [255])]
    decide +kernel
  have unstaged : (smallBuilder.stage (smallWorkspace [255])).1.isOk = false := by
    rw [stage, Action.bind_of_ok (discover_small [255])]
    decide +kernel
  -- The names of the small site are plain, so its staging folder is its own.
  have single : Path.IsName smallBuilder.env :=
    ⟨by decide, by decide, by decide, by decide⟩
  have plain : ".." ∉ smallBuilder.outputRoot.segments := by decide
  have own : smallBuilder.OwnsStaging (smallWorkspace [255]).disk := by
    refine .of_plain single plain fun present => ?_
    have absent : (smallWorkspace [255]).disk.look
        ((smallWorkspace [255]).disk.place smallBuilder.staging) = none := by
      rw [staging, place_child (isName_staging single)]
      rfl
    rw [absent] at present
    cases present
  cases ended : smallBuilder.run (smallWorkspace [255]) with
  | mk outcome after =>
    rw [ended] at stops
    cases outcome with
    | ok paths => cases stops
    | error fault =>
      refine ⟨rfl, (run_unharmed_iff own (pagesInside_small [255]) (fun _ => .of_plain single plain)
        ended).mpr ⟨fun lost => ?_, fun staged => ?_⟩⟩
      · rw [discover_small] at lost
        cases lost
      · rw [unstaged] at staged
        cases staged

end StaticSite.Builder
