import StaticSite.Value.Order

/-!
# Mappings and scopes

A mapping is a list of entries with distinct keys, in the order in which the keys were first
inserted. Writing to a key that is present keeps its place.
-/

namespace StaticSite.Mapping

abbrev Entries := List (Value × Value)

def lookup? (key : Value) (entries : Entries) : Option Value :=
  (entries.find? fun entry => Value.same entry.1 key).map Prod.snd

/-- The value under a string key. -/
def get? (name : String) (entries : Entries) : Option Value := lookup? (.str name) entries

def contains (key : Value) (entries : Entries) : Bool := (lookup? key entries).isSome

/-- Writes a value under a key: in place if the key is present, else at the end. -/
def insert (key value : Value) : Entries → Entries
  | [] => [(key, value)]
  | entry :: rest =>
    if Value.same entry.1 key then (entry.1, value) :: rest else entry :: insert key value rest

def insertName (name : String) (value : Value) (entries : Entries) : Entries :=
  insert (.str name) value entries

def erase (key : Value) (entries : Entries) : Entries :=
  entries.filter fun entry => !Value.same entry.1 key

/-- Writes all entries of `later` over those of `entries`. -/
def merge (entries later : Entries) : Entries :=
  later.foldl (fun merged entry => insert entry.1 entry.2 merged) entries

/-- Entries in the order given; of a repeated key the last value stays, at the first place. -/
def ofList (entries : Entries) : Entries := merge [] entries

end StaticSite.Mapping
