import StaticSite.Reported
import StaticSite.Value.Basic

/-!
# Journals

A journal records, oldest first, what a run leaves for others to see: its notices, the requests it
has sent, and the names of the components whose data it has loaded.
-/

namespace StaticSite

/-- A request for the contents of an address. -/
structure Request where
  address : String
  timeout : Value

structure Journal where
  notices : List Notice
  requests : List Request
  loads : List String

namespace Journal

def empty : Journal := ⟨[], [], []⟩

instance : Inhabited Journal := ⟨empty⟩

/-- The journal of two stretches of a run. -/
def append (first second : Journal) : Journal :=
  ⟨first.notices ++ second.notices, first.requests ++ second.requests, first.loads ++ second.loads⟩

instance : Append Journal := ⟨append⟩

def ofNotices (notices : List Notice) : Journal := { empty with notices := notices }

/-- A journal without its notices: what is left is what loading data has recorded. -/
def unnoticed (journal : Journal) : Journal := { journal with notices := [] }

@[simp] theorem empty_append (journal : Journal) : empty ++ journal = journal := rfl

@[simp] theorem append_empty (journal : Journal) : journal ++ empty = journal := by
  show append journal empty = journal
  simp [append, empty]

@[simp] theorem unnoticed_append (first second : Journal) :
    (first ++ second).unnoticed = first.unnoticed ++ second.unnoticed := rfl

@[simp] theorem unnoticed_ofNotices (notices : List Notice) :
    (ofNotices notices).unnoticed = empty := rfl

theorem append_assoc (a b c : Journal) : a ++ b ++ c = a ++ (b ++ c) := by
  show append (append a b) c = append a (append b c)
  simp [append]

end Journal

end StaticSite
