import Mathlib
import StaticSite.Component.Registry
import StaticSite.Proofs.Build.Staging
import StaticSite.Proofs.Disk.Copying
import StaticSite.Proofs.Traversing

/-!
# Where the pages of a folder go

The page of an index file stays in the file's folder, the page of any other file gets a folder of
the file's own name. Two rules that do not know of each other: a file `A.html` and the index file of
a folder `A` beside it have the same page. A folder where this happens is crowded, and so is one that
has an index file and a file whose name before the suffix is a single point. Every other pair of
files of a tree has two pages.
-/

namespace StaticSite

open StaticSite.Text

namespace Node

mutual

/-- Every folder at or below a node has a property. -/
def Every (holds : Entries → Prop) : Node → Prop
  | .file _ => True
  | .folder entries => holds entries ∧ EveryOf holds entries

def EveryOf (holds : Entries → Prop) : List (String × Node) → Prop
  | [] => True
  | (_, node) :: rest => node.Every holds ∧ EveryOf holds rest

end

/-- Each name of a folder names one entry. -/
def Named (entries : Entries) : Prop := ∀ entry ∈ entries, Path.IsName entry.1

/-- A folder has a markup file of a name. -/
def HasMarkup (name : String) (entries : Entries) : Prop :=
  ∃ bytes, (name ++ ".html", Node.file bytes) ∈ entries

/-- A folder has a file whose page stays in the folder. -/
def HasOwnPage (entries : Entries) : Prop := HasMarkup "index" entries ∨ HasMarkup "." entries

/-- Two files have one page: two whose page stays in the folder, or a file and one in the
sub-folder of its name. -/
def Crowded (entries : Entries) : Prop :=
  (HasMarkup "index" entries ∧ HasMarkup "." entries) ∨
    ∃ name inner, name ≠ "index" ∧ HasMarkup name entries ∧
      (name, Node.folder inner) ∈ entries ∧ HasOwnPage inner

end Node

namespace Component

open Node

theorem byName_perm {α : Type} (items : List (String × α)) : (byName items).Perm items :=
  List.mergeSort_perm _ _

/-! ### The folder of a file's page -/

/-- The folder of a file's page, below the file's own folder. -/
def pageFolder (file : String) : Location :=
  if file = indexFile then [] else (Path.ofString (Path.ofSegments [file]).stem).segments

theorem cutName_html {name : List Char} (nonempty : name ≠ []) :
    Path.cutName (name ++ ".html".toList) = (name, ".html".toList) := by
  have cut : cutAtLast? ['.'] (name ++ ".html".toList) = some (name, "html".toList) := by
    have back : (name ++ ".html".toList).reverse = "lmth".toList ++ '.' :: name.reverse := by simp
    rw [cutAtLast?, back, List.reverse_singleton, cutAt?_char (by decide)]
    simp
  have some : name.isEmpty = false := by simpa using nonempty
  rw [Path.cutName, cut]
  simp [some]

theorem eq_of_cutName {file : List Char} (suffix : (Path.cutName file).2 = ".html".toList) :
    ∃ name, name ≠ [] ∧ file = name ++ ".html".toList := by
  unfold Path.cutName at suffix
  split at suffix
  next stem rest cut =>
    split at suffix
    · cases suffix
    next full =>
      refine ⟨stem, fun empty => full (by simp [empty]), ?_⟩
      simp only [cutAtLast?, Option.map_eq_some_iff, Prod.mk.injEq, Prod.exists] at cut
      obtain ⟨back, front, found, rfl, rfl⟩ := cut
      have whole := congrArg List.reverse (cutAt?_eq_append found)
      rw [List.reverse_reverse, List.reverse_append, List.reverse_append] at whole
      rw [whole, ← suffix]
      simp
  · cases suffix

/-- The stem of a markup file's name is what stands before the suffix. -/
theorem stem_html {name : String} (nonempty : name ≠ "") :
    (Path.ofSegments [name ++ ".html"]).stem = name := by
  have some : name.toList ≠ [] := fun empty => nonempty (String.toList_eq_nil_iff.mp empty)
  show String.ofList (Path.cutName (name ++ ".html").toList).1 = name
  rw [String.toList_append, cutName_html some, String.ofList_toList]

theorem isMarkupFile_iff {entry : String × Node} :
    isMarkupFile entry = true ↔
      ∃ name bytes, name ≠ "" ∧ entry = (name ++ ".html", .file bytes) := by
  obtain ⟨file, node⟩ := entry
  -- The suffix is cut off at the last point, which must not be the first character.
  have suffix : (Path.ofSegments [file]).suffix = ".html"
      ↔ (Path.cutName file.toList).2 = ".html".toList := by
    show String.ofList (Path.cutName file.toList).2 = ".html" ↔ _
    rw [← String.toList_inj, String.toList_ofList]
  cases node with
  | folder inner => simp [isMarkupFile, isFolder]
  | file bytes =>
    simp only [isMarkupFile, isFolder, Bool.not_false, Bool.true_and, decide_eq_true_eq, suffix]
    constructor
    · intro cut
      obtain ⟨name, nonempty, whole⟩ := eq_of_cutName cut
      refine ⟨String.ofList name, bytes, fun empty => nonempty ?_, ?_⟩
      · simpa using congrArg String.toList empty
      · have same : file = String.ofList name ++ ".html" := String.toList_inj.mp (by simp [whole])
        rw [same]
    · rintro ⟨name, _, nonempty, same⟩
      cases same
      rw [String.toList_append, cutName_html fun empty =>
        nonempty (String.toList_eq_nil_iff.mp empty)]

/-- A text without slashes is one segment, unless it is a single point. -/
theorem ofString_of_whole {name : String} (nonempty : name ≠ "") (whole : '/' ∉ name.toList) :
    Path.ofString name = ⟨0, if name = "." then [] else [name]⟩ := by
  by_cases point : name = "."
  · subst point
    decide +kernel
  by_cases above : name = ".."
  · subst above
    decide +kernel
  rw [if_neg point]
  exact Path.ofString_of_isName ⟨nonempty, point, above, whole⟩

theorem pageFolder_html {name : String} (nonempty : name ≠ "") (whole : '/' ∉ name.toList) :
    pageFolder (name ++ ".html") = if name = "index" ∨ name = "." then [] else [name] := by
  have index : name ++ ".html" = indexFile ↔ name = "index" := by
    rw [show indexFile = "index" ++ ".html" by decide]
    exact String.append_left_inj ".html"
  simp only [pageFolder, index, stem_html nonempty, ofString_of_whole nonempty whole]
  by_cases first : name = "index" <;> by_cases point : name = "." <;> simp [first, point]

/-- Where the page of a file goes, below the folder of the file. -/
def pageIn (below : Path) (place : Location) : Path :=
  ⟨below.slashes, below.segments ++ place ++ [indexFile]⟩

theorem ofFile_outputPath {folder below : Path} {siblings : Entries} {name : String}
    {component : Component} (nonempty : name ≠ "") (whole : '/' ∉ name.toList)
    (made : (ofFile folder below siblings (name ++ ".html")).outcome = .ok component) :
    component.outputPath = pageIn below (pageFolder (name ++ ".html")) := by
  obtain ⟨config, _, last⟩ := Reported.bind_eq_ok made
  cases last
  have index : Path.IsName indexFile := ⟨by decide, by decide, by decide, by decide⟩
  rw [pageFolder, Builder.child_of_isName index, pageIn]
  split
  · rw [List.append_nil]
  · rw [stem_html nonempty, Path.child, ofString_of_whole nonempty whole]
    rfl

/-! ### The pages of a tree -/

/-- The folders of the pages of a folder's own files. -/
def ownPages (entries : Entries) : List Location :=
  (entries.filter isMarkupFile).map fun entry => pageFolder entry.1

mutual

/-- The folders of the pages of a tree, below its root. -/
def pageFolders : Node → List Location
  | .file _ => []
  | .folder entries => ownPages entries ++ pageFoldersEach entries

def pageFoldersEach : List (String × Node) → List Location
  | [] => []
  | (name, node) :: rest => (pageFolders node).map (name :: ·) ++ pageFoldersEach rest

end

theorem markup_of_named {entries : Entries} {entry : String × Node} (named : Named entries)
    (listed : entry ∈ entries) (markup : isMarkupFile entry = true) :
    ∃ name bytes, name ≠ "" ∧ '/' ∉ name.toList ∧ entry = (name ++ ".html", .file bytes) := by
  obtain ⟨name, bytes, nonempty, rfl⟩ := isMarkupFile_iff.mp markup
  have whole := (named _ listed).whole
  rw [String.toList_append, List.mem_append, not_or] at whole
  exact ⟨name, bytes, nonempty, whole.1, rfl⟩

theorem outputPaths_of_made {folder below : Path} {entries files : Entries}
    {components : List Component} (named : Named entries)
    (markup : ∀ entry ∈ files, entry ∈ entries ∧ isMarkupFile entry = true)
    (made : List.Forall₂
      (fun entry component => (ofFile folder below entries entry.1).outcome = .ok component)
      files components) :
    components.map outputPath = files.map fun entry => pageIn below (pageFolder entry.1) := by
  induction made with
  | nil => rfl
  | cons first _ ih =>
    obtain ⟨⟨here, isMarkup⟩, others⟩ := List.forall_mem_cons.mp markup
    obtain ⟨name, bytes, nonempty, whole, rfl⟩ := markup_of_named named here isMarkup
    rw [List.map_cons, List.map_cons, ih others, ofFile_outputPath nonempty whole first]

theorem inFolder_outputPaths {folder below : Path} {entries : Entries} {components : List Component}
    (named : Named entries) (found : (inFolder folder below entries).outcome = .ok components) :
    (components.map outputPath).Perm ((ownPages entries).map (pageIn below)) := by
  -- The files are read in the order of their names; the pages are the same in any order.
  have listed := byName_perm (entries.filter isMarkupFile)
  have paths := outputPaths_of_made named
    (fun entry inside => List.mem_filter.mp (listed.mem_iff.mp inside)) (Reported.mapM_eq_ok found)
  rw [paths, ownPages, List.map_map]
  exact listed.map _

/-- The parts that are joined all have components, which are joined in some order. -/
theorem joinByName_eq_ok {parts : List (String × Reported (List Component))}
    {components : List Component} (joined : (joinByName parts).outcome = .ok components) :
    ∃ each, List.Forall₂ (fun part found => part.2.outcome = .ok found) parts each ∧
      components.Perm each.flatten := by
  obtain ⟨sorted, found, last⟩ := Reported.bind_eq_ok joined
  cases last
  obtain ⟨each, related, permuted⟩ := List.perm_comp_forall₂ (byName_perm parts).symm (Reported.mapM_eq_ok found)
  exact ⟨each, related, permuted.symm.flatten⟩

theorem pageIn_child {below : Path} {name : String} (single : Path.IsName name) (place : Location) :
    pageIn (below.child name) place = pageIn below (name :: place) := by
  rw [Builder.child_of_isName single]
  simp [pageIn]

mutual

/-- What is found in a tree has the pages of the tree. -/
theorem discoverAt_outputPaths {folder below : Path} {components : List Component} :
    (node : Node) → node.Every Named →
    (discoverAt folder below node).outcome = .ok components →
    (components.map outputPath).Perm ((pageFolders node).map (pageIn below))
  | .file _, _, found => by
    cases found
    exact .nil
  | .folder entries, named, found => by
    rw [discoverAt] at found
    obtain ⟨own, ownFound, second⟩ := Reported.bind_eq_ok found
    obtain ⟨others, joined, last⟩ := Reported.bind_eq_ok second
    cases last
    obtain ⟨each, related, permuted⟩ := joinByName_eq_ok joined
    rw [List.map_append, pageFolders, List.map_append]
    exact (inFolder_outputPaths named.1 ownFound).append
      ((permuted.map _).trans (discoverEach_outputPaths entries named.1 named.2 related))

theorem discoverEach_outputPaths {folder below : Path} {each : List (List Component)} :
    (entries : List (String × Node)) → Named entries → EveryOf Named entries →
    List.Forall₂ (fun part found => part.2.outcome = .ok found) (discoverEach folder below entries)
      each →
    (each.flatten.map outputPath).Perm ((pageFoldersEach entries).map (pageIn below))
  | [], _, _, related => by
    cases related
    exact .nil
  | (name, node) :: rest, names, named, related => by
    rw [discoverEach] at related
    cases related with
    | cons first others =>
      obtain ⟨single, names⟩ := List.forall_mem_cons.mp names
      have here := discoverAt_outputPaths node named.1 first
      have there := discoverEach_outputPaths rest names named.2 others
      rw [List.flatten_cons, List.map_append, pageFoldersEach, List.map_append, List.map_map]
      refine .append ?_ there
      -- A sub-folder is read with its name at the end of the way that leads to it.
      convert here using 2
      funext place
      exact (pageIn_child single place).symm

end

/-! ### Pages that meet -/

theorem mem_ownPages {entries : Entries} (named : Named entries) {place : Location} :
    place ∈ ownPages entries ↔ ∃ name, name ≠ "" ∧ HasMarkup name entries ∧
      place = if name = "index" ∨ name = "." then [] else [name] := by
  constructor
  · intro inside
    obtain ⟨entry, kept, rfl⟩ := List.mem_map.mp inside
    obtain ⟨listed, markup⟩ := List.mem_filter.mp kept
    obtain ⟨name, bytes, nonempty, whole, rfl⟩ := markup_of_named named listed markup
    exact ⟨name, nonempty, ⟨bytes, listed⟩, pageFolder_html nonempty whole⟩
  · rintro ⟨name, nonempty, ⟨bytes, listed⟩, rfl⟩
    have markup := isMarkupFile_iff.mpr ⟨name, bytes, nonempty, rfl⟩
    obtain ⟨_, _, _, whole, same⟩ := markup_of_named named listed markup
    obtain rfl := (String.append_left_inj ".html").mp (congrArg Prod.fst same)
    exact List.mem_map.mpr ⟨_, List.mem_filter.mpr ⟨listed, markup⟩, pageFolder_html nonempty whole⟩

theorem nil_mem_ownPages {entries : Entries} (named : Named entries) :
    [] ∈ ownPages entries ↔ HasOwnPage entries := by
  rw [mem_ownPages named]
  constructor
  · rintro ⟨name, _, has, same⟩
    split at same
    next own => exact own.elim (fun index => .inl (index ▸ has)) fun point => .inr (point ▸ has)
    next => contradiction
  · rintro (has | has)
    · exact ⟨"index", by decide, has, rfl⟩
    · exact ⟨".", by decide, has, rfl⟩

theorem singleton_mem_ownPages {entries : Entries} (named : Named entries) {name : String}
    (single : Path.IsName name) :
    [name] ∈ ownPages entries ↔ name ≠ "index" ∧ HasMarkup name entries := by
  rw [mem_ownPages named]
  constructor
  · rintro ⟨other, _, has, same⟩
    split at same
    next => contradiction
    next own =>
      cases same
      exact ⟨fun index => own (.inl index), has⟩
  · rintro ⟨differs, has⟩
    exact ⟨name, single.nonempty, has, by simp [differs, single.plain]⟩

theorem mem_pageFoldersEach {place : Location} {entries : List (String × Node)} :
    place ∈ pageFoldersEach entries
      ↔ ∃ entry ∈ entries, ∃ inner ∈ pageFolders entry.2, entry.1 :: inner = place := by
  induction entries with
  | nil => simp [pageFoldersEach]
  | cons entry rest ih => simp [pageFoldersEach, ih]

theorem nodup_ownPages {entries : Entries} (named : Named entries)
    (names : (entries.map Prod.fst).Nodup) :
    (ownPages entries).Nodup ↔ ¬ (HasMarkup "index" entries ∧ HasMarkup "." entries) := by
  constructor
  · rintro apart ⟨⟨first, index⟩, second, point⟩
    have meet : pageFolder ("index" ++ ".html") = pageFolder ("." ++ ".html") := by
      rw [pageFolder_html (by decide) (by decide), pageFolder_html (by decide) (by decide)]
      rfl
    have same := List.inj_on_of_nodup_map apart
      (List.mem_filter.mpr ⟨index, isMarkupFile_iff.mpr ⟨_, _, by decide, rfl⟩⟩)
      (List.mem_filter.mpr ⟨point, isMarkupFile_iff.mpr ⟨_, _, by decide, rfl⟩⟩) meet
    have names : "index" ++ ".html" = "." ++ ".html" := congrArg Prod.fst same
    exact absurd names (by decide)
  · intro apart
    refine List.Nodup.map_on (fun first here second there same => ?_) (names.of_map.filter _)
    obtain ⟨here, markup⟩ := List.mem_filter.mp here
    obtain ⟨there, others⟩ := List.mem_filter.mp there
    obtain ⟨name, bytes, nonempty, whole, rfl⟩ := markup_of_named named here markup
    obtain ⟨other, _, filled, single, rfl⟩ := markup_of_named named there others
    rw [pageFolder_html nonempty whole, pageFolder_html filled single] at same
    suffices equal : name = other by
      subst equal
      exact List.inj_on_of_nodup_map names here there rfl
    -- A page goes into the folder of its file, or into one that has the name of the file.
    by_cases stays : name = "index" ∨ name = "."
    · rw [if_pos stays] at same
      by_cases alike : other = "index" ∨ other = "."
      · rcases stays with rfl | rfl <;> rcases alike with rfl | rfl
        · rfl
        · exact absurd ⟨⟨_, here⟩, _, there⟩ apart
        · exact absurd ⟨⟨_, there⟩, _, here⟩ apart
        · rfl
      · rw [if_neg alike] at same
        contradiction
    · rw [if_neg stays] at same
      split at same
      · contradiction
      · exact List.singleton_inj.mp same

theorem nil_mem_pageFolders {node : Node} (named : node.Every Named) :
    [] ∈ pageFolders node ↔ ∃ inner, node = .folder inner ∧ HasOwnPage inner := by
  cases node with
  | file bytes => simp [pageFolders]
  | folder entries =>
    have apart : [] ∉ pageFoldersEach entries := fun inside => by
      obtain ⟨_, _, _, _, same⟩ := mem_pageFoldersEach.mp inside
      contradiction
    rw [pageFolders, List.mem_append, nil_mem_ownPages named.1]
    simp [apart]

theorem everyOf_iff {holds : Entries → Prop} {entries : List (String × Node)} :
    EveryOf holds entries ↔ ∀ entry ∈ entries, entry.2.Every holds := by
  induction entries with
  | nil => simp [EveryOf]
  | cons entry rest ih =>
    rw [List.forall_mem_cons, ← ih]
    rfl

/-- A folder's own pages meet those of its sub-folders where a file has the name of a sub-folder
with a page of its own. -/
theorem disjoint_ownPages {entries : Entries} (named : Named entries)
    (below : EveryOf Named entries) :
    (ownPages entries).Disjoint (pageFoldersEach entries) ↔
      ¬ ∃ name inner, name ≠ "index" ∧ HasMarkup name entries ∧
        (name, Node.folder inner) ∈ entries ∧ HasOwnPage inner := by
  constructor
  · rintro apart ⟨name, inner, differs, has, listed, own⟩
    have here := (singleton_mem_ownPages named (named _ listed)).mpr ⟨differs, has⟩
    have stays := (nil_mem_pageFolders (everyOf_iff.mp below _ listed)).mpr ⟨inner, rfl, own⟩
    exact apart here (mem_pageFoldersEach.mpr ⟨_, listed, [], stays, rfl⟩)
  · intro apart place here there
    obtain ⟨⟨name, node⟩, listed, inner, inside, rfl⟩ := mem_pageFoldersEach.mp there
    -- The pages of a folder's own files are at most one level down.
    have short : inner = [] := by
      obtain ⟨_, _, _, same⟩ := (mem_ownPages named).mp here
      split at same
      · contradiction
      · exact (List.cons.inj same).2
    subst short
    obtain ⟨differs, has⟩ := (singleton_mem_ownPages named (named _ listed)).mp here
    obtain ⟨inner, rfl, own⟩ := (nil_mem_pageFolders (everyOf_iff.mp below _ listed)).mp inside
    exact apart ⟨name, inner, differs, has, listed, own⟩

mutual

theorem nodup_pageFolders : (node : Node) → node.Every Named → node.Distinct →
    ((pageFolders node).Nodup ↔ node.Every fun entries => ¬ Crowded entries)
  | .file _, _, _ => by simp [pageFolders, Every]
  | .folder entries, named, distinct => by
    rw [pageFolders, List.nodup_append', nodup_ownPages named.1 distinct.1,
      nodup_pageFoldersEach entries named.2 distinct.1 distinct.2,
      disjoint_ownPages named.1 named.2, Every, Crowded, not_or]
    tauto

theorem nodup_pageFoldersEach : (entries : List (String × Node)) → EveryOf Named entries →
    (entries.map Prod.fst).Nodup → DistinctEach entries →
    ((pageFoldersEach entries).Nodup ↔ EveryOf (fun entries => ¬ Crowded entries) entries)
  | [], _, _, _ => by simp [pageFoldersEach, EveryOf]
  | (name, node) :: rest, named, names, distinct => by
    rw [List.map_cons, List.nodup_cons] at names
    have apart : ((pageFolders node).map (name :: ·)).Disjoint (pageFoldersEach rest) := by
      intro place here there
      obtain ⟨_, _, rfl⟩ := List.mem_map.mp here
      obtain ⟨entry, listed, _, _, same⟩ := mem_pageFoldersEach.mp there
      exact names.1 (List.mem_map.mpr ⟨entry, listed, (List.cons.inj same).1⟩)
    rw [pageFoldersEach, List.nodup_append', EveryOf,
      List.nodup_map_iff fun _ _ same => (List.cons.inj same).2,
      nodup_pageFolders node named.1 distinct.1,
      nodup_pageFoldersEach rest named.2 names.2 distinct.2]
    tauto

end

/-! ### Pages inside the site -/

mutual

theorem inside_pageFolders : (node : Node) → node.Every Named →
    (node.Every fun entries => ¬ HasMarkup ".." entries) →
    ∀ place ∈ pageFolders node, ".." ∉ place
  | .file _, _, _ => by simp [pageFolders]
  | .folder entries, named, inside => by
    intro place listed
    rcases List.mem_append.mp listed with own | below
    · obtain ⟨name, _, has, rfl⟩ := (mem_ownPages named.1).mp own
      split
      · exact List.not_mem_nil
      · intro above
        obtain rfl := List.mem_singleton.mp above
        exact inside.1 has
    · exact inside_pageFoldersEach entries named.1 named.2 inside.2 place below

theorem inside_pageFoldersEach : (entries : List (String × Node)) → Named entries →
    EveryOf Named entries → EveryOf (fun entries => ¬ HasMarkup ".." entries) entries →
    ∀ place ∈ pageFoldersEach entries, ".." ∉ place
  | [], _, _, _ => by simp [pageFoldersEach]
  | (name, node) :: rest, names, named, inside => by
    obtain ⟨single, names⟩ := List.forall_mem_cons.mp names
    intro place listed
    rcases List.mem_append.mp listed with here | there
    · obtain ⟨inner, below, rfl⟩ := List.mem_map.mp here
      rw [List.mem_cons, not_or]
      exact ⟨single.inside.symm, inside_pageFolders node named.1 inside.1 inner below⟩
    · exact inside_pageFoldersEach rest names named.2 inside.2 place there

end

theorem pageIn_isInner {place : Location} (inside : ".." ∉ place) :
    (pageIn .here place).IsInner := by
  refine ⟨rfl, fun above => ?_⟩
  rcases List.mem_append.mp above with inner | last
  · exact inside inner
  · exact absurd (List.mem_singleton.mp last) (by decide)

theorem pageIn_here_injective : Function.Injective (pageIn .here) := fun _ _ same =>
  (List.append_left_inj [indexFile]).mp (congrArg Path.segments same)

theorem discoverRoot_outputPaths {disk : Disk} {root : Path} {tree : Node}
    {components : List Component} (read : disk.node? root = some tree) (named : tree.Every Named)
    (found : (discoverRoot disk root).outcome = .ok components) :
    (components.map outputPath).Perm ((pageFolders tree).map (pageIn .here)) := by
  rw [discoverRoot, read] at found
  cases tree with
  | file bytes =>
    cases found
    exact .nil
  | folder entries => exact discoverAt_outputPaths _ named found

/-- The pages below a components folder are pairwise different exactly if none of its folders is
crowded. The same holds of the files that a site has for them, if no page leads out of the site:
then no page is written over another one exactly if no folder is crowded. -/
theorem nodup_outputPaths_iff {disk : Disk} {root : Path} {tree : Node}
    {components : List Component} (read : disk.node? root = some tree) (distinct : tree.Distinct)
    (named : tree.Every Named) (found : (discoverRoot disk root).outcome = .ok components) :
    ((components.map outputPath).Nodup ↔ tree.Every fun entries => ¬ Crowded entries) ∧
      ((tree.Every fun entries => ¬ HasMarkup ".." entries) → ∀ (site : Disk) (folder : Path),
        ((components.map fun component => site.place (folder ++ component.outputPath)).Nodup
          ↔ tree.Every fun entries => ¬ Crowded entries)) := by
  -- The pages are the folders of the tree that have one, in another order.
  have pages := discoverRoot_outputPaths read named found
  rw [← nodup_pageFolders tree named distinct]
  refine ⟨?_, fun inside site folder => ?_⟩
  · rw [pages.nodup_iff, List.nodup_map_iff pageIn_here_injective]
  · -- A page that stays inside the folder is there under its own name, so none is lost.
    have files : (components.map fun component => site.place (folder ++ component.outputPath)).Perm
        ((pageFolders tree).map fun place => site.place folder ++ (place ++ [indexFile])) := by
      have moved := pages.map fun path => site.place (folder ++ path)
      rw [List.map_map, List.map_map] at moved
      refine moved.trans (.of_eq (List.map_congr_left fun place listed => ?_))
      exact Disk.place_append (pageIn_isInner (inside_pageFolders tree named inside place listed))
    rw [files.nodup_iff]
    refine List.nodup_map_iff fun first second same => ?_
    exact (List.append_left_inj [indexFile]).mp ((List.append_right_inj _).mp same)

/-- A file beside the folder of its name. -/
def besideTree : Node :=
  .folder [("A.html", .file [120]), ("A", .folder [("index.html", .file [121])])]

def besideDisk : Disk := ⟨.folder [("c", besideTree)], []⟩

/-- Both files have the page `A/index.html`. -/
theorem nodup_outputPaths_iff_beside :
    (∃ components, (discoverRoot besideDisk ⟨0, ["c"]⟩).outcome = .ok components ∧
      components.map outputPath = List.replicate 2 ⟨0, ["A", "index.html"]⟩) ∧
    ¬ besideTree.Every fun entries => ¬ Crowded entries := by
  have paths : ((discoverRoot besideDisk ⟨0, ["c"]⟩).outcome.map (List.map outputPath)).toOption
      = some (List.replicate 2 ⟨0, ["A", "index.html"]⟩) := by cbv
  cases found : (discoverRoot besideDisk ⟨0, ["c"]⟩).outcome with
  | error fault =>
    rw [found] at paths
    cases paths
  | ok components =>
    rw [found] at paths
    have same : components.map outputPath = List.replicate 2 ⟨0, ["A", "index.html"]⟩ :=
      Option.some.inj paths
    have read : besideDisk.node? ⟨0, ["c"]⟩ = some besideTree := rfl
    have distinct : besideTree.Distinct := by
      simp [besideTree, Node.Distinct, Node.DistinctEach]
    have file : Path.IsName "A.html" := ⟨by decide, by decide, by decide, by decide⟩
    have folder : Path.IsName "A" := ⟨by decide, by decide, by decide, by decide⟩
    have index : Path.IsName "index.html" := ⟨by decide, by decide, by decide, by decide⟩
    have named : besideTree.Every Named := by
      simp [besideTree, Every, EveryOf, Named, file, folder, index]
    refine ⟨⟨components, rfl, same⟩, fun free => ?_⟩
    have apart := (nodup_outputPaths_iff read distinct named found).1.mpr free
    rw [same] at apart
    exact absurd apart (by decide)

end Component

end StaticSite
