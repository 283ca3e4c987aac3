import FluentKotlin.Yaml.Lexer
import FluentKotlin.Yaml.Meaning

/-! # Nodes of a YAML document

A node is a scalar, a sequence or a mapping, and it has a tag. The nodes of a document are numbered,
and a collection holds the numbers of its nodes. An alias is the number of the node that has its
anchor, so a node may be in more than one place, and also inside of itself. Nodes are built from
tokens, and a text holds at most one document, in which collections lie in each other up to a limit.
-/

namespace FluentKotlin.Yaml

inductive Content where
  | scalar (text : String)
  | sequence (items : List Nat)
  | mapping (entries : List (Nat × Nat))
  deriving DecidableEq, Repr, Inhabited

structure Node where
  tag : Tag
  content : Content
  deriving DecidableEq, Repr, Inhabited

/-- The nodes of a document by number. -/
structure Graph where
  root : Nat
  nodes : Array Node

namespace Node

/-- What is not there is an empty plain scalar. -/
def empty : Node := ⟨.null, .scalar ""⟩

/-- What the nodes of a document are built from, and those that are built. -/
structure Supply where
  rest : TokenRun
  nodes : Array Node := #[]
  anchors : List (String × Nat) := []
  /-- What the handles of tags stand for. -/
  handles : List (String × String) := []
  /-- The number of collections around the next node. -/
  depth : Nat := 0

/-- The most collections that can lie in each other, as many as the stack of a reader holds. The
texts of types are read at any depth: how deep they can be depends on where they are read from. -/
def maxDepth : Nat := 488

def standardHandles : List (String × String) := [("!", "!"), ("!!", Tag.standardStart)]

abbrev Building := StateT Supply (Except Flaw)

/-- The next token, none at the end of the text. -/
def peek : Building (Option Token) := do
  match (← get).rest with
  | ⟨token :: _, _⟩ => return some token
  | ⟨[], none⟩ => return none
  | ⟨[], some flaw⟩ => throw flaw

def drop : Building Unit :=
  modify fun s => { s with rest := { s.rest with tokens := s.rest.tokens.drop 1 } }

/-- Whether one of these tokens is next. -/
def isNext (tokens : List Token) : Building Bool := do
  return (← peek).any (· ∈ tokens)

/-- Take the token if it is next. -/
def accept (token : Token) : Building Bool := do
  if (← peek) == some token then
    drop
    return true
  else return false

def refuse {α : Type} : Building α := do throw (.unexpected (← peek))

def expect (token : Token) : Building Unit := do
  if !(← accept token) then refuse

structure Properties where
  anchor : Option String := none
  tag : Option String := none

def fullTag (handle : Option String) (suffix : String) : Building String := do
  match handle with
  | none => return suffix
  | some h =>
    match (← get).handles.lookup h with
    | some start => return start ++ suffix
    | none => throw (.unknownHandle h)

def anchor? : Building (Option String) := do
  match ← peek with
  | some (.anchor name) => do
    drop
    return some name
  | _ => return none

def tag? : Building (Option (Option String × String)) := do
  match ← peek with
  | some (.tag handle suffix) => do
    drop
    return some (handle, suffix)
  | _ => return none

/-- An anchor and a tag may stand before a node in either order. -/
def properties : Building Properties := do
  let before ← anchor?
  let tag ← tag?
  let after ← if before.isNone && tag.isSome then anchor? else pure none
  match tag with
  | none => return ⟨before.or after, none⟩
  | some (handle, suffix) => return ⟨before.or after, some (← fullTag handle suffix)⟩

/-- The tag of a node, which is the given one where none of its own is written. -/
def tagOr (own : Tag) : Option String → Tag
  | none => own
  | some name => if name = "!" then own else .ofName name

/-- The tag of a scalar. Without quotes, and under a mere exclamation mark, its text decides. -/
def scalarTag (tag : Option String) (plain : Bool) (text : String) : Tag :=
  tagOr (if plain || tag.isSome then .ofText text else .text) tag

/-- Number a node, also by its anchor. -/
def add (anchor : Option String) (node : Node) : Building Nat := do
  let s ← get
  let number := s.nodes.size
  match anchor with
  | none => set { s with nodes := s.nodes.push node }
  | some name =>
    if (s.anchors.lookup name).isSome then throw (.repeatedAnchor name)
    else set { s with nodes := s.nodes.push node, anchors := (name, number) :: s.anchors }
  return number

def addEmpty : Building Nat := add none empty

def fill (number : Nat) (content : Content) : Building Nat := do
  modify fun s => { s with nodes := s.nodes.modify number ({ · with content := content }) }
  return number

def anchored (name : String) : Building Nat := do
  match (← get).anchors.lookup name with
  | some number => return number
  | none => throw (.unknownAlias name)

/-- Build what lies in a collection. -/
def inside {α : Type} (content : Building α) : Building α := do
  let depth := (← get).depth
  if depth < maxDepth then
    modify ({ · with depth := depth + 1 })
    let built ← content
    modify ({ · with depth })
    return built
  else throw .tooDeep

/-- Number a sequence and then its items, which may hold it. -/
def sequence (p : Properties) (items : Building (List Nat)) : Building Nat := do
  let number ← add p.anchor ⟨tagOr .list p.tag, .sequence []⟩
  fill number (.sequence (← inside items))

/-- Number a mapping and then its entries, which may hold it. -/
def mapping (p : Properties) (entries : Building (List (Nat × Nat))) : Building Nat := do
  let number ← add p.anchor ⟨tagOr .mapping p.tag, .mapping []⟩
  fill number (.mapping (← inside entries))

def scalar (p : Properties) (plain : Bool) (text : String) : Building Nat :=
  add p.anchor ⟨scalarTag p.tag plain text, .scalar text⟩

/-- Where a node stands, which decides what it can be. -/
inductive Place where
  | flow
  | block
  /-- In a block mapping, where the items of a sequence need not be indented. -/
  | entry
  deriving DecidableEq

/-- The marks that stand where the node of a key or an item is missing. -/
def blockEnds : List Token := [.key, .value, .blockEnd]

def flowSequenceEnds : List Token := [.flowEntry, .flowSequenceEnd]

def flowMappingEnds : List Token := [.flowEntry, .flowMappingEnd]

mutual

def node : Nat → Place → Building Nat
  | 0, _ => refuse
  | fuel + 1, place => do
    match ← peek with
    | some (.aliasOf name) => do
      drop
      anchored name
    | _ => do
      let p ← properties
      bare fuel place p

/-- A node after its properties. -/
def bare : Nat → Place → Properties → Building Nat
  | 0, _, _ => refuse
  | fuel + 1, place, p => do
    match ← peek, place with
    | some (.scalar plain text), _ => do
      drop
      scalar p plain text
    | some .flowSequenceStart, _ => sequence p do
      drop
      flowItems fuel true
    | some .flowMappingStart, _ => mapping p do
      drop
      flowEntries fuel true
    | some .blockEntry, .entry => sequence p (looseItems fuel)
    | some .blockSequenceStart, .block | some .blockSequenceStart, .entry => sequence p do
      drop
      blockItems fuel
    | some .blockMappingStart, .block | some .blockMappingStart, .entry => mapping p do
      drop
      blockEntries fuel
    | _, _ => if p.anchor.isSome || p.tag.isSome then scalar p p.tag.isNone "" else refuse

/-- A node, or the empty one where one of the ends is next. -/
def nodeUnless : Nat → List Token → Place → Building Nat
  | 0, _, _ => refuse
  | fuel + 1, ends, place => do
    if ← isNext ends then addEmpty else node fuel place

/-- The node after a mark, or the empty one where the mark is missing. -/
def nodeAfter : Nat → Token → List Token → Place → Building Nat
  | 0, _, _, _ => refuse
  | fuel + 1, token, ends, place => do
    if ← accept token then nodeUnless fuel ends place else addEmpty

/-- The items of a block sequence up to its end. -/
def blockItems : Nat → Building (List Nat)
  | 0 => refuse
  | fuel + 1 => do
    if ← accept .blockEntry then
      let item ← nodeUnless fuel [.blockEntry, .blockEnd] .block
      return item :: (← blockItems fuel)
    else
      expect .blockEnd
      return []

/-- The items of a sequence that is not indented. -/
def looseItems : Nat → Building (List Nat)
  | 0 => refuse
  | fuel + 1 => do
    if ← accept .blockEntry then
      let item ← nodeUnless fuel (.blockEntry :: blockEnds) .block
      return item :: (← looseItems fuel)
    else return []

/-- The entries of a block mapping up to its end. -/
def blockEntries : Nat → Building (List (Nat × Nat))
  | 0 => refuse
  | fuel + 1 => do
    if ← accept .key then
      let key ← nodeUnless fuel blockEnds .entry
      let value ← nodeAfter fuel .value blockEnds .entry
      return (key, value) :: (← blockEntries fuel)
    else
      expect .blockEnd
      return []

/-- The items of a flow sequence up to its end. An item with a key is a mapping of one entry. -/
def flowItems : Nat → Bool → Building (List Nat)
  | 0, _ => refuse
  | fuel + 1, first => do
    if ← accept .flowSequenceEnd then return []
    else
      if !first then expect .flowEntry
      if ← accept .key then
        let item ← mapping {} do
          let key ← nodeUnless fuel (.value :: flowSequenceEnds) .flow
          let value ← nodeAfter fuel .value flowSequenceEnds .flow
          return [(key, value)]
        return item :: (← flowItems fuel false)
      else if ← accept .flowSequenceEnd then return []
      else
        let item ← node fuel .flow
        return item :: (← flowItems fuel false)

/-- The entries of a flow mapping up to its end. A node without a key mark is a key alone. -/
def flowEntries : Nat → Bool → Building (List (Nat × Nat))
  | 0, _ => refuse
  | fuel + 1, first => do
    if ← accept .flowMappingEnd then return []
    else
      if !first then expect .flowEntry
      if ← accept .key then
        let key ← nodeUnless fuel (.value :: flowMappingEnds) .flow
        let value ← nodeAfter fuel .value flowMappingEnds .flow
        return (key, value) :: (← flowEntries fuel false)
      else if ← accept .flowMappingEnd then return []
      else
        let key ← node fuel .flow
        return (key, ← addEmpty) :: (← flowEntries fuel false)

end

/-- What the directives in front of a document declare. -/
structure Declared where
  hasVersion : Bool := false
  handles : List (String × String) := []

def declare (d : Declared) : Directive → Except Flaw Declared
  | .version major =>
    if d.hasVersion then .error .repeatedDirective
    else if major ≠ 1 then .error .badVersion
    else .ok { d with hasVersion := true }
  | .tagHandle handle start =>
    if (d.handles.lookup handle).isSome then .error .repeatedDirective
    else .ok { d with handles := (handle, start) :: d.handles }
  | .other => .ok d

/-- What the directives up to the next other token declare. -/
def declarations : Nat → Declared → Building Declared
  | 0, d => return d
  | fuel + 1, d => do
    match ← peek with
    | some (.directive x) => do
      drop
      declarations fuel (← declare d x)
    | _ => return d

/-- Pass over the marks at the end of a document. -/
def skipEnds : Nat → Building Unit
  | 0 => pure ()
  | fuel + 1 => do
    if ← accept .documentEnd then skipEnds fuel

def endsDocument : Option Token → Bool
  | none | some .documentStart | some .documentEnd | some (.directive _) => true
  | _ => false

/-- The number of tokens that are left. -/
def remaining : Building Nat := return (← get).rest.tokens.length

/-- The root of a document after its start mark, which may be empty. -/
def explicit (fuel : Nat) : Building Nat := do
  if endsDocument (← peek) then addEmpty else node fuel .block

/-- Nothing but ends of documents may follow a document. -/
def finish : Building Unit := do
  skipEnds (← remaining)
  if (← peek).isSome then
    let _ ← declarations (← remaining) {}
    refuse

/-- Enough for the tokens: building a node takes no more than four steps for each of them. -/
def fuelFor (tokens : Nat) : Nat := 4 * tokens + 4

/-- The root of the only document, none where there is no document. -/
def document : Building (Option Nat) := do
  let fuel := fuelFor (← remaining)
  match ← peek with
  | none => return none
  | some .documentStart | some (.directive _) => do
    let d ← declarations fuel {}
    expect .documentStart
    modify ({ · with handles := d.handles ++ standardHandles })
    let root ← explicit fuel
    finish
    return some root
  | some _ => do
    let root ← node fuel .block
    finish
    return some root

end Node

/-- The nodes of the document, none where there is no document. -/
def Graph.ofTokens (rest : TokenRun) : Except Flaw (Option Graph) := do
  let (root?, s) ← Node.document.run { rest, handles := Node.standardHandles }
  return root?.map fun root => ⟨root, s.nodes⟩

end FluentKotlin.Yaml
