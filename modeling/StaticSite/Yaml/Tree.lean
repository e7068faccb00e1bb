import StaticSite.Yaml.Token

/-!
# Documents of YAML

A document is a tree of scalars, sequences and mappings. An alias stands for the tree its anchor
was put on. Each parser takes its fuel from the number of tokens: every token is entered at most a
fixed number of times on one path.
-/

namespace StaticSite.Yaml

/-- A node of a document. A tag that is not given is found from the text of a plain scalar, or from
the kind of the node. -/
inductive Tree where
  | scalar (tag : Option (List Char)) (isPlain : Bool) (text : List Char)
  | sequence (tag : Option (List Char)) (items : List Tree)
  | mapping (tag : Option (List Char)) (entries : List (Tree × Tree))
  deriving Inhabited

namespace Tree

def nothing : Tree := .scalar none true []

def standardTag (name : String) : List Char := ("tag:yaml.org,2002:" ++ name).toList

def standardHandles : List (List Char × List Char) :=
  [(['!'], ['!']), (['!', '!'], standardTag "")]

/-- What is left to read, and the anchors and handles known so far. -/
structure Parse where
  tokens : List Token
  anchors : List (List Char × Tree)
  handles : List (List Char × List Char)

abbrev Parser := StateT Parse (Except Fault)

def next? : Parser (Option Token) := return (← get).tokens.head?

def advance : Parser Unit := modify fun parse => { parse with tokens := parse.tokens.tail }

def fail {α : Type} : Parser α := throw .malformedYaml

/-- Takes a token that has to be there. -/
def expect (token : Token) : Parser Unit := do
  if (← next?) = some token then advance else fail

/-- Takes a token if it is there. -/
def accept (token : Token) : Parser Bool := do
  if (← next?) = some token then
    advance
    return true
  else return false

/-- A tag with its handle replaced by what the handle stands for. -/
def fullTag (name? : Option (List Char)) (suffix : List Char) : Parser (List Char) := do
  match name? with
  | none => return suffix
  | some name => match (← get).handles.lookup name with
    | some stands => return stands ++ suffix
    | none => fail

structure Properties where
  anchor : Option (List Char)
  tag : Option (List Char)

def takeAnchor : Parser (Option (List Char)) := do
  match ← next? with
  | some (.anchor name) =>
    advance
    return some name
  | _ => return none

def takeTag : Parser (Option (List Char)) := do
  match ← next? with
  | some (.tag name? suffix) =>
    advance
    return some (← fullTag name? suffix)
  | _ => return none

/-- An anchor and a tag, in either order. -/
def properties : Parser Properties := do
  match ← takeAnchor with
  | some name => return ⟨some name, ← takeTag⟩
  | none =>
    let tag ← takeTag
    let anchor ← if tag.isSome then takeAnchor else pure none
    return ⟨anchor, tag⟩

def setAnchor (properties : Properties) (tree : Tree) : Parser Tree := do
  if let some name := properties.anchor then
    modify fun parse => { parse with anchors := (name, tree) :: parse.anchors }
  return tree

def isAny (tokens : List Token) : Parser Bool := do
  return match ← next? with
    | some token => tokens.elem token
    | none => false

/-- The tag of a node, if it names a type. -/
def typeTag (properties : Properties) : Option (List Char) :=
  properties.tag.filter (· != ['!'])

mutual

/-- A node; `inBlock` allows collections made by indentation, and `indentless` a sequence at the
column of the mapping that holds it. -/
def node (inBlock indentless : Bool) : (fuel : Nat) → Parser Tree
  | 0 => fail
  | fuel + 1 => do
    if let some (.alias name) := ← next? then
      advance
      match (← get).anchors.lookup name with
      | some tree => return tree
      | none => fail
    else
      let given ← properties
      let tag := typeTag given
      let tree ← match ← next? with
        | some (.scalar text isPlain) => do
          advance
          pure (.scalar tag (given.tag = some ['!'] || isPlain && given.tag.isNone) text)
        | some .flowSequence => do
          advance
          pure (.sequence tag (← flowItems true fuel))
        | some .flowMapping => do
          advance
          pure (.mapping tag (← flowEntries true fuel))
        | some .blockEntry =>
          if indentless then pure (.sequence tag (← indentlessItems fuel))
          else absent given tag
        | some .blockSequence =>
          if inBlock then do
            advance
            pure (.sequence tag (← blockItems fuel))
          else absent given tag
        | some .blockMapping =>
          if inBlock then do
            advance
            pure (.mapping tag (← blockEntries fuel))
          else absent given tag
        | _ => absent given tag
      setAnchor given tree

/-- A node of which only the anchor or the tag is written. -/
def absent (given : Properties) (tag : Option (List Char)) : Parser Tree := do
  if given.anchor.isSome || given.tag.isSome then return .scalar tag true [] else fail

/-- A node, or nothing in front of one of the tokens that end it. -/
def nodeBefore (ends : List Token) (inBlock indentless : Bool) : (fuel : Nat) → Parser Tree
  | 0 => fail
  | fuel + 1 => do
    if ← isAny ends then return nothing else node inBlock indentless fuel

def blockItems : (fuel : Nat) → Parser (List Tree)
  | 0 => fail
  | fuel + 1 => do
    if ← accept .blockEntry then
      let item ← nodeBefore [.blockEntry, .blockEnd] true false fuel
      return item :: (← blockItems fuel)
    else
      expect .blockEnd
      return []

def indentlessItems : (fuel : Nat) → Parser (List Tree)
  | 0 => fail
  | fuel + 1 => do
    if ← accept .blockEntry then
      let item ← nodeBefore [.blockEntry, .key, .value, .blockEnd] true false fuel
      return item :: (← indentlessItems fuel)
    else return []

/-- The entries of a block mapping; a key or a value may be missing. -/
def blockEntries : (fuel : Nat) → Parser (List (Tree × Tree))
  | 0 => fail
  | fuel + 1 => do
    if ← isAny [.key, .value] then
      let key ← if ← accept .key then nodeBefore [.key, .value, .blockEnd] true true fuel
        else pure nothing
      let value ← if ← accept .value then nodeBefore [.key, .value, .blockEnd] true true fuel
        else pure nothing
      return (key, value) :: (← blockEntries fuel)
    else
      expect .blockEnd
      return []

/-- The items of a sequence between brackets; a key makes an item a mapping of one entry. -/
def flowItems (isFirst : Bool) : (fuel : Nat) → Parser (List Tree)
  | 0 => fail
  | fuel + 1 => do
    if ← accept .flowSequenceEnd then return []
    else
      unless isFirst do expect .flowEntry
      -- A comma may stand in front of the end.
      if ← accept .flowSequenceEnd then return []
      else
        let item ← if ← accept .key then do
            let key ← nodeBefore [.value, .flowEntry, .flowSequenceEnd] false false fuel
            let value ← if ← accept .value then
              nodeBefore [.flowEntry, .flowSequenceEnd] false false fuel else pure nothing
            pure (.mapping none [(key, value)])
          else node false false fuel
        return item :: (← flowItems false fuel)

/-- The entries of a mapping between braces. -/
def flowEntries (isFirst : Bool) : (fuel : Nat) → Parser (List (Tree × Tree))
  | 0 => fail
  | fuel + 1 => do
    if ← accept .flowMappingEnd then return []
    else
      unless isFirst do expect .flowEntry
      if ← accept .flowMappingEnd then return []
      else
        let isMarked ← accept .key
        let isBare ← isAny [.value]
        let key ← if isMarked then nodeBefore [.value, .flowEntry, .flowMappingEnd] false false fuel
          else if isBare then pure nothing
          else node false false fuel
        -- A key that was not announced stands alone, and its value is null.
        let takesValue ← if isMarked || isBare then accept .value else pure false
        let value ← if takesValue then
          nodeBefore [.flowEntry, .flowMappingEnd] false false fuel else pure nothing
        return (key, value) :: (← flowEntries false fuel)

end

/-- The directives in front of a document: at most one version, whose major number is one, and no
handle twice. -/
def directives : (fuel : Nat) → (hasVersion : Bool) → Parser Unit
  | 0, _ => fail
  | fuel + 1, hasVersion => do
    match ← next? with
    | some (.directive found) =>
      advance
      match found with
      | .version major _ =>
        if hasVersion || major != 1 then fail else directives fuel true
      | .handle name stands =>
        let parse ← get
        if (parse.handles.lookup name).isSome then fail
        else
          set { parse with handles := (name, stands) :: parse.handles }
          directives fuel hasVersion
      | .unknown => directives fuel hasVersion
    | _ => return ()

/-- The content of a document that is announced: nothing in front of a marker. -/
def announced (fuel : Nat) : Parser Tree := do
  directives fuel false
  expect .documentStart
  modify fun parse => { parse with handles := parse.handles ++ standardHandles }
  match ← next? with
  | none | some (.directive _) | some .documentStart | some .documentEnd => return nothing
  | _ => node true false fuel

/-- The only document of a text, if it has one. -/
def single (older : Bool) : Parser (Option Tree) := do
  let fuel := 4 * (← get).tokens.length + 4
  match ← next? with
  | none => return none
  | some first =>
    -- A document without directives may leave out its start marker.
    let isAnnounced := match first with
      | .directive _ | .documentStart => true
      | _ => false
    unless isAnnounced do modify fun parse => { parse with handles := standardHandles }
    let tree ← if isAnnounced then announced fuel else node true false fuel
    modify fun parse => { parse with tokens := dropEnds parse.tokens }
    if (← next?).isNone then return some tree else fail
where
  /-- One marker may end a document; of the older version any number may. -/
  dropEnds : List Token → List Token
    | .documentEnd :: rest => if older then rest.dropWhile (· = .documentEnd) else rest
    | tokens => tokens

/-- The document of a text. -/
def ofTokens (older : Bool) (tokens : List Token) : Except Fault (Option Tree) :=
  ((single older).run ⟨tokens, [], []⟩).map Prod.fst

end Tree

end StaticSite.Yaml
