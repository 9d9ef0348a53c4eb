/-
# The nodes of a document

A document is a graph of scalars, sequences and mappings; an alias leads back to a
node that was named before, so a node may contain itself. `Graph.ofTokens` reads
the tokens of a text that holds at most one document.

Functions carry fuel; between two tokens only a few of them are entered, so a
multiple of the number of tokens is enough.
-/

import ChipEight.Yaml.Tag
import ChipEight.Yaml.Token.Lexer

namespace ChipEight.Yaml

/-- What a node holds; nodes are known by their numbers. -/
inductive Content
  | scalar (text : Text)
  | sequence (items : List Nat)
  | mapping (pairs : List (Nat × Nat))

/-- A node. -/
structure Node where
  tag : Tag
  content : Content

/-- The nodes of a document, in the order in which they start. -/
structure Graph where
  nodes : Array Node
  root : Nat

/-- How far the tokens have been read. -/
structure Reading where
  tokens : List Token
  error? : Option Error
  nodes : Array Node := #[]
  anchors : List (String × Nat) := []
  /-- What each tag handle stands for. -/
  handles : List (String × String) := []
  /-- Collections around the next token. -/
  depth : Nat := 0

/-- A step of reading. -/
abbrev Reader := StateT Reading (Except Error)

namespace Reader

/-- The handles that every document knows. -/
def defaultHandles : List (String × String) := [("!", "!"), ("!!", Tag.standard)]

/-- The next token; none at the end. -/
def peek? : Reader (Option Token) := do
  let r ← get
  match r.tokens, r.error? with
  | t :: _, _ => return some t
  | [], some e => throw e
  | [], none => return none

/-- Passes over the next token. -/
def drop : Reader Unit := modify fun r => { r with tokens := r.tokens.tail }

/-- Passes over the next token if it is this one. -/
def accept (t : Token) : Reader Bool := do
  if (← peek?) = some t then
    drop
    return true
  return false

/-- Passes over the next token, which must be this one. -/
def expect (t : Token) : Reader Unit := do
  if !(← accept t) then throw .malformed

/-- The next token is one of these. -/
def isNext (ts : List Token) : Reader Bool := do
  return (← peek?).any ts.contains

/-- How many collections may lie in one another. -/
def maxDepth : Nat := 488

/-- Adds a node. -/
def add (node : Node) : Reader Nat := do
  let r ← get
  set { r with nodes := r.nodes.push node }
  return r.nodes.size

/-- Fills a node in. -/
def fill (id : Nat) (node : Node) : Reader Unit :=
  modify fun r => { r with nodes := r.nodes.setIfInBounds id node }

/-- Goes into a collection. -/
def enter : Reader Unit := do
  let r ← get
  if maxDepth ≤ r.depth then throw .tooDeep
  set { r with depth := r.depth + 1 }

/-- Comes out of a collection. -/
def leave : Reader Unit := modify fun r => { r with depth := r.depth - 1 }

/-- A node that is not written: null. -/
def addNothing : Reader Nat := add ⟨.null, .scalar ""⟩

/-- Passes over a name, if one is next. -/
def anchor? : Reader (Option String) := do
  match ← peek? with
  | some (.anchor name) => drop; return some name
  | _ => return none

/-- Passes over a tag, if one is next: its handle, if it has one, and the rest. -/
def tag? : Reader (Option (Option String × String)) := do
  match ← peek? with
  | some (.tag handle? suffix) => drop; return some (handle?, suffix)
  | _ => return none

/-- The full name of a tag. A tag without a handle is one. -/
def tagName : Option String × String → Reader String
  | (none, name) => return name
  | (some handle, suffix) => do
    let some start := (← get).handles.lookup handle | throw .malformed
    return start ++ suffix

/-- The name and the tag before a node, in either order. -/
def properties : Reader (Option String × Option String) := do
  let first? ← anchor?
  let tag ← tag?
  let name? ← if first?.isNone && tag.isSome then anchor? else pure first?
  match tag with
  | none => return (name?, none)
  | some tag => return (name?, some (← tagName tag))

/-- Gives a name to a node; a name is given once. -/
def nameNode (anchor? : Option String) (id : Nat) : Reader Unit := do
  if let some name := anchor? then
    let r ← get
    if (r.anchors.lookup name).isSome then throw .malformed
    set { r with anchors := (name, id) :: r.anchors }

/-- The tag of a node: the one given, unless it is the mark that asks for the usual
one. -/
def tagOr (tag? : Option String) (usual : Tag) : Tag :=
  match tag? with
  | none | some "!" => usual
  | some name => .ofName name

mutual

/-- A node. Block collections count only where `block`, and a sequence without its
own indentation only where `bare`. -/
def node (block bare : Bool) : Nat → Reader Nat
  | 0 => throw .malformed
  | fuel + 1 => do
    if let some (.alias name) := ← peek? then
      drop
      let some id := (← get).anchors.lookup name | throw .malformed
      return id
    let (anchor?, tag?) ← properties
    let collection (usual : Tag) (start : Reader Unit) (content : Reader Content) :
        Reader Nat := do
      let tag := tagOr tag? usual
      let id ← add ⟨tag, .sequence []⟩
      nameNode anchor? id
      start
      enter
      fill id ⟨tag, ← content⟩
      leave
      return id
    let t? ← peek?
    if bare && t? = some .blockEntry then
      collection .seq (pure ()) (.sequence <$> bareEntries fuel)
    else match t? with
      | some (.scalar text isPlain) =>
        drop
        let resolved := match tag? with
          | some "!" => true
          | none => isPlain
          | some _ => false
        let tag := if resolved then Tag.ofSpelling text else tagOr tag? .text
        let id ← add ⟨tag, .scalar text⟩
        nameNode anchor? id
        return id
      | some .flowSequenceStart =>
        collection .seq drop (.sequence <$> flowEntries true fuel)
      | some .flowMappingStart =>
        collection .map drop (.mapping <$> flowPairs true fuel)
      | some .blockSequenceStart =>
        if block then collection .seq drop (.sequence <$> blockEntries fuel)
        else if anchor?.isSome || tag?.isSome then emptyNode anchor? tag?
        else throw .malformed
      | some .blockMappingStart =>
        if block then collection .map drop (.mapping <$> blockPairs fuel)
        else if anchor?.isSome || tag?.isSome then emptyNode anchor? tag?
        else throw .malformed
      | _ =>
        if anchor?.isSome || tag?.isSome then emptyNode anchor? tag? else throw .malformed

/-- A node of which only the name or the tag is written. -/
def emptyNode (anchor? tag? : Option String) : Reader Nat := do
  let id ← add ⟨tagOr tag? .null, .scalar ""⟩
  nameNode anchor? id
  return id

/-- The entries of an indented sequence. -/
def blockEntries : Nat → Reader (List Nat)
  | 0 => throw .malformed
  | fuel + 1 => do
    if ← accept .blockEntry then
      let item ← if ← isNext [.blockEntry, .blockEnd] then addNothing else node true false fuel
      return item :: (← blockEntries fuel)
    else
      expect .blockEnd
      return []

/-- The entries of a sequence that is as far in as its key. -/
def bareEntries : Nat → Reader (List Nat)
  | 0 => throw .malformed
  | fuel + 1 => do
    if ← accept .blockEntry then
      let item ← if ← isNext [.blockEntry, .key, .value, .blockEnd] then addNothing
        else node true false fuel
      return item :: (← bareEntries fuel)
    else return []

/-- The pairs of an indented mapping. -/
def blockPairs : Nat → Reader (List (Nat × Nat))
  | 0 => throw .malformed
  | fuel + 1 => do
    let part : Reader Nat := do
      if ← isNext [.key, .value, .blockEnd] then addNothing else node true true fuel
    let valuePart : Reader Nat := do
      if ← accept .value then part else addNothing
    if ← accept .key then
      let key ← part
      let value ← valuePart
      return (key, value) :: (← blockPairs fuel)
    else
      expect .blockEnd
      return []

/-- The entries between square brackets. A key makes a mapping of one pair. -/
def flowEntries (first : Bool) : Nat → Reader (List Nat)
  | 0 => throw .malformed
  | fuel + 1 => do
    if ← accept .flowSequenceEnd then return []
    if !first then expect .flowEntry
    if ← accept .flowSequenceEnd then return []
    let item ← (do
      if ← accept .key then
        let id ← add ⟨.map, .sequence []⟩
        enter
        let key ← if ← isNext [.value, .flowEntry, .flowSequenceEnd] then addNothing
          else node false false fuel
        let value ← (do
          if ← accept .value then
            if ← isNext [.flowEntry, .flowSequenceEnd] then addNothing
            else node false false fuel
          else addNothing)
        fill id ⟨.map, .mapping [(key, value)]⟩
        leave
        return id
      else node false false fuel)
    return item :: (← flowEntries false fuel)

/-- The pairs between curly brackets. -/
def flowPairs (first : Bool) : Nat → Reader (List (Nat × Nat))
  | 0 => throw .malformed
  | fuel + 1 => do
    if ← accept .flowMappingEnd then return []
    if !first then expect .flowEntry
    if ← accept .flowMappingEnd then return []
    let pair ← (do
      if ← accept .key then
        let key ← if ← isNext [.value, .flowEntry, .flowMappingEnd] then addNothing
          else node false false fuel
        let value ← (do
          if ← accept .value then
            if ← isNext [.flowEntry, .flowMappingEnd] then addNothing
            else node false false fuel
          else addNothing)
        return (key, value)
      else
        let key ← node false false fuel
        return (key, ← addNothing))
    return pair :: (← flowPairs false fuel)

end

/-- The directives before a document. -/
def directives (version : Bool) (handles : List (String × String)) :
    Nat → Reader (List (String × String))
  | 0 => throw .malformed
  | fuel + 1 => do
    match ← peek? with
    | some (.directive d) =>
      drop
      match d with
      | .version major _ =>
        if version || major ≠ 1 then throw .malformed
        directives true handles fuel
      | .tagHandle handle start =>
        if (handles.lookup handle).isSome then throw .malformed
        directives version ((handle, start) :: handles) fuel
      | .other => directives version handles fuel
    | _ => return handles ++ defaultHandles

/-- A token that starts with a percent sign. -/
def isDirective : Option Token → Bool
  | some (.directive _) => true
  | _ => false

/-- A document, after its start if that is marked. -/
def document (fuel : Nat) : Reader Nat := do
  let t? ← peek?
  if isDirective t? || t? = some .documentStart then
    let handles ← directives false [] fuel
    expect .documentStart
    modify fun r => { r with handles := handles }
    let t? ← peek?
    if t?.isNone || isDirective t? || t? = some .documentStart || t? = some .documentEnd then
      addNothing
    else node true false fuel
  else
    modify fun r => { r with handles := defaultHandles }
    node true false fuel

/-- Document ends, any number. -/
def documentEnds : Nat → Reader Unit
  | 0 => return ()
  | fuel + 1 => do
    if ← accept .documentEnd then documentEnds fuel

/-- The only document; an empty text has none. What follows it is refused, but its
directives are read before. -/
def onlyDocument (fuel : Nat) : Reader (Option Nat) := do
  if (← peek?).isNone then return none
  let id ← document fuel
  documentEnds fuel
  if (← peek?).isSome then
    discard (directives false [] fuel)
    discard peek?
    throw .malformed
  return some id

end Reader

/-- The document of a text, if it holds one. -/
def Graph.ofTokens (ts : Tokens) : Except Error (Option Graph) := do
  let fuel := 8 * (ts.tokens.length + 2)
  let (root?, r) ← (Reader.onlyDocument fuel).run { tokens := ts.tokens, error? := ts.error? }
  return root?.map fun root => ⟨r.nodes, root⟩

end ChipEight.Yaml
