import StaticSite.Value.Mapping
import StaticSite.Yaml.Typed

/-!
# Reading YAML

A text with at most one document is read to a value. A mapping takes in the entries of the mappings
that it merges, in front of its own and beneath them; a mapping that merges nothing must not repeat
a key.
-/

namespace StaticSite.Yaml

open StaticSite.Yaml.Tree

/-- What a tag says a node is. -/
inductive Shape where
  | scalar (type : ScalarType)
  | bytes
  | sequence
  | mapping
  | set
  /-- A sequence of mappings with one entry each, as pairs. -/
  | pairs
  /-- The same as one mapping. -/
  | ordered
  deriving DecidableEq

def shapes : List (List Char × Shape) :=
  [("null", .scalar .null), ("bool", .scalar .bool), ("int", .scalar .int),
    ("float", .scalar .float), ("timestamp", .scalar .timestamp), ("str", .scalar .str),
    ("merge", .scalar .merge), ("value", .scalar .default), ("binary", .bytes), ("seq", .sequence),
    ("map", .mapping), ("set", .set), ("pairs", .pairs), ("omap", .ordered)].map
    fun entry => (standardTag entry.1, entry.2)

/-- What a node is: what its tag says, else what it looks like. -/
def shapeOf (older : Bool) (tree : Tree) : Except Fault Shape :=
  let named (tag? : Option (List Char)) (unnamed : Shape) : Except Fault Shape := match tag? with
    | none => .ok unnamed
    | some tag => match shapes.lookup tag with
      | some shape => .ok shape
      | none => malformed
  match tree with
  | .scalar tag isPlain text =>
    named tag (.scalar (if isPlain then ScalarType.ofText older text else .str))
  | .sequence tag _ => named tag .sequence
  | .mapping tag _ => named tag .mapping

/-- A key as mappings hold it: a sequence becomes a tuple, a mapping can be no key. -/
def keyOf : Value → Except Fault Value
  | .list items =>
    if Value.isHashable (.tuple items) then .ok (.tuple items) else .error .wrongType
  | .mapping _ => malformed
  | value => .ok value

def isBase64 (c : Char) : Bool :=
  Text.isAsciiDigit c || Text.isAsciiLower c || Text.isAsciiUpper c || c = '+' || c = '/'

/-- Whether a text writes bytes in base sixty-four. -/
def writesBytes (s : List Char) : Bool :=
  let digits := (s.filter isBase64).length
  let fill := (s.filter (· = '=')).length
  s.all (fun c => c.toNat < 128) && (digits + fill) % 4 = 0 && fill ≤ 2

/-- The entries of a mapping, those it merges apart. -/
structure Members where
  merged : Mapping.Entries
  own : Mapping.Entries

namespace Members

def empty : Members := ⟨[], []⟩

/-- All entries, the merged ones first. -/
def all (members : Members) : Mapping.Entries := members.merged ++ members.own

def repeatsKey : Mapping.Entries → Bool
  | [] => false
  | entry :: rest => (rest.any fun other => Value.same entry.1 other.1) || repeatsKey rest

def toMapping (members : Members) : Except Fault Mapping.Entries :=
  if members.merged.isEmpty && repeatsKey members.own then malformed
  else .ok (Mapping.ofList members.all)

end Members

mutual

/-- The value of a node. -/
def valueOf (older : Bool) : Tree → Except Fault Value
  | .scalar tag isPlain text => do
    match ← shapeOf older (.scalar tag isPlain text) with
    | .scalar type => scalarValue older type text
    | .bytes => if writesBytes text then .ok (.thing "bytes" "" "") else malformed
    | _ => malformed
  | .sequence tag items => do
    match ← shapeOf older (.sequence tag items) with
    | .sequence => return .list (← valuesOf older items)
    | .pairs => return .list ((← pairsOf older items).map fun pair => .tuple [pair.1, pair.2])
    | .ordered => return .mapping (Mapping.ofList (← pairsOf older items))
    | _ => malformed
  | .mapping tag entries => do
    match ← shapeOf older (.mapping tag entries) with
    | .mapping => return .mapping (← (← membersOf older entries).toMapping)
    | .set =>
      let _ ← (← membersOf older entries).toMapping
      return .thing "set" "" ""
    | _ => malformed

def valuesOf (older : Bool) : List Tree → Except Fault (List Value)
  | [] => .ok []
  | tree :: rest => do
    let first ← valueOf older tree
    return first :: (← valuesOf older rest)

/-- The only entry of each of the mappings in a sequence. -/
def pairsOf (older : Bool) : List Tree → Except Fault (List (Value × Value))
  | [] => .ok []
  | .mapping _ [(key, tree)] :: rest => do
    let key ← keyOf (← valueOf older key)
    let value ← valueOf older tree
    return (key, value) :: (← pairsOf older rest)
  | _ :: _ => malformed

/-- The entries of a mapping. Of two keys that merge, the first must merge nothing. -/
def membersOf (older : Bool) : List (Tree × Tree) → Except Fault Members
  | [] => .ok .empty
  | (key, tree) :: rest => do
    match ← shapeOf older key with
    | .scalar .merge =>
      let merged ← mergedBy older tree
      let members ← membersOf older rest
      -- Merging nothing leaves the place for another merge.
      if merged.isEmpty then return members
      else if members.merged.isEmpty then return { members with merged := merged }
      else malformed
    | .scalar .default =>
      let value ← valueOf older tree
      let members ← membersOf older rest
      return { members with own := (.str "=", value) :: members.own }
    | _ =>
      let key ← keyOf (← valueOf older key)
      let value ← valueOf older tree
      let members ← membersOf older rest
      return { members with own := (key, value) :: members.own }

/-- The entries that a node gives to the mapping that merges it: of a sequence, those of its
mappings, the last one first. -/
def mergedBy (older : Bool) : Tree → Except Fault Mapping.Entries
  | .mapping _ entries => do return (← membersOf older entries).all
  | .sequence _ items => do return (← mergedByEach older items).reverse.flatten
  | .scalar .. => malformed

def mergedByEach (older : Bool) : List Tree → Except Fault (List Mapping.Entries)
  | [] => .ok []
  | .mapping _ entries :: rest => do
    let first := (← membersOf older entries).all
    return first :: (← mergedByEach older rest)
  | _ :: _ => malformed

end

/-- Whether the tokens ask for the older version of the format. -/
def asksForOlder (tokens : List Token) : Bool :=
  tokens.any fun
    | .directive (.version major minor) => major = 1 && minor ≤ 1
    | _ => false

/-- The value of a text: null for a text without a document. -/
def read (s : List Char) : Except Fault Value := do
  let tokens ← Token.ofText s
  let older := asksForOlder tokens
  match ← Tree.ofTokens older tokens with
  | some tree => valueOf older tree
  | none => return .null

end StaticSite.Yaml
