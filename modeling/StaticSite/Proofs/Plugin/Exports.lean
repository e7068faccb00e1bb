import StaticSite.Plugin.Rule
import StaticSite.Proofs.Traversing

/-!
# The items of an export

What a source exports is taken apart into items: lists, one in another, into their items, a module
into those of its rules. Each item is read as one rule. The rules of an export are those of its
items in order, all of them or none: the first item that is no rule decides for the whole export.
-/

namespace StaticSite.Plugin

/-- A part of an export that is read as one rule. -/
inductive Item where
  | object (object : Object)
  /-- A module without rules. -/
  | ruleless

namespace Rule

mutual

/-- The items of an object; lists are taken apart. -/
def partItems : Object → List Item
  | .list items => listItems items
  | .tuple items => listItems items
  | object => [.object object]

def listItems : List Object → List Item
  | [] => []
  | .bundle _ exported :: items => exportItems exported ++ listItems items
  | item :: items => partItems item ++ listItems items

/-- The items of a module: those of what stands under the name of its rules. -/
def exportItems : Exports → List Item
  | [] => [.ruleless]
  | (name, object) :: exported =>
    if name = exportName then if object.isNull then [.ruleless] else partItems object
    else exportItems exported

end

def items : Object → List Item
  | .bundle _ exported => exportItems exported
  | object => partItems object

/-- The rule that an item is. -/
def ofItem (source : String) : Item → Except Fault Rule
  | .object (.rule held) => .ok held
  | .object object => match ofObject? object with
    | .ok (some rule) => .ok rule
    | .ok none => .error (unsupported source object)
    | .error fault => .error fault
  | .ruleless => .error (noRules source)

variable (source : String)

theorem mapM_singleton (item : Item) :
    [item].mapM (ofItem source) = (ofItem source item).map fun rule => [rule] := by
  rw [List.mapM_cons]
  cases ofItem source item <;> rfl

mutual

theorem ofPart_eq : (object : Object) → ofPart source object = (partItems object).mapM (ofItem source)
  | .list items | .tuple items => by rw [ofPart, partItems, ofItems_eq items]
  | .rule held => rfl
  | .data _ | .function .. | .record _ | .mapping _ | .ofClass .. | .bundle .. => by
    rw [ofPart, partItems, mapM_singleton, ofItem]
    · generalize ofObject? _ = reading
      rcases reading with fault | (none | rule) <;> rfl
    all_goals nofun

theorem ofItems_eq : (items : List Object) →
    ofItems source items = (listItems items).mapM (ofItem source)
  | [] => by rw [ofItems, listItems]; rfl
  | .bundle _ exported :: items => by
    rw [ofItems, listItems, List.mapM_append, ofExports_eq exported, ofItems_eq items]
  | .data value :: items | .list value :: items | .tuple value :: items | .record value :: items
  | .mapping value :: items | .rule value :: items | .function value _ _ :: items
  | .ofClass value _ :: items => by
    rw [ofItems, listItems, List.mapM_append, ofPart_eq _, ofItems_eq items]
    all_goals nofun

theorem ofExports_eq : (exported : Exports) →
    ofExports source exported = (exportItems exported).mapM (ofItem source)
  | [] => by rw [ofExports, exportItems]; rfl
  | (name, object) :: exported => by
    rw [ofExports, exportItems]
    split
    · split
      · rfl
      · exact ofPart_eq object
    · exact ofExports_eq exported

end

variable {source} {object : Object} {fault : Fault}

end Rule

end StaticSite.Plugin
