import FluentKotlin.Yaml.Node
import FluentKotlin.Yaml.Scalar

/-! # What the nodes of a YAML document hold

Scalars have their values at once, and collections are begun first and filled later, in the order in
which they are begun. So of two nodes without a value the one that lies less deep is found. Keys are
scalars. The entries of a mapping under a merge key come before the own entries of the mapping,
which take precedence.
-/

namespace FluentKotlin.Yaml

/-- A scalar, or the number of a collection. -/
inductive Part where
  | scalar (s : Scalar)
  | collection (number : Nat)
  deriving Inhabited

/-- What a collection holds. -/
inductive Filling where
  | list (items : List Part)
  | mapping (entries : List (Scalar × Part))
  | set (members : List Scalar)
  | pairs (items : List (Part × Part))
  deriving Inhabited

structure Construction where
  nodes : Array Node
  begun : Array Bool
  /-- The collections that are begun and not filled, the last first. -/
  waiting : List Nat := []
  fillings : Array (Option Filling)

abbrev Constructing := StateT Construction (Except Flaw)

namespace Constructing

def nodeAt (number : Nat) : Constructing Node := return (← get).nodes.getD number default

def hasTag (tag : Tag) (number : Nat) : Constructing Bool := return (← nodeAt number).tag == tag

/-- The entries of a mapping. -/
def entriesAt (number : Nat) (flaw : Flaw) : Constructing (List (Nat × Nat)) := do
  match (← nodeAt number).content with
  | .mapping entries => return entries
  | _ => throw flaw

def itemsAt (number : Nat) : Constructing (List Nat) := do
  match (← nodeAt number).content with
  | .sequence items => return items
  | _ => throw .wrongKind

def changeNode (number : Nat) (f : Node → Node) : Constructing Unit :=
  modify fun s => { s with nodes := s.nodes.modify number f }

def setEntries (number : Nat) (entries : List (Nat × Nat)) : Constructing Unit :=
  changeNode number ({ · with content := .mapping entries })

/-- The place of the first entry with a merge key, counted from one of them on. -/
def mergePlace? (start : Nat) (entries : List (Nat × Nat)) : Constructing (Option Nat) := do
  let marks ← (entries.drop start).mapM fun e => hasTag .merge e.1
  return (marks.findIdx? id).map (start + ·)

/-- A key that stands for a default elsewhere is a text. -/
def settleKey (number : Nat) : Constructing Unit := do
  if ← hasTag .default number then changeNode number ({ · with tag := .text })

mutual

/-- Put merged entries in front of the own entries of a mapping, and take the merge keys out. -/
def flatten : Nat → Nat → Constructing Unit
  | 0, _ => pure ()
  | fuel + 1, number => do
    let merged ← mergedFrom fuel number 0
    let own ← entriesAt number .wrongKind
    setEntries number (merged ++ own)
    own.forM fun e => settleKey e.1

/-- The entries that a mapping merges from one of its entries on. -/
def mergedFrom : Nat → Nat → Nat → Constructing (List (Nat × Nat))
  | 0, _, _ => return []
  | fuel + 1, number, start => do
    let entries ← entriesAt number .wrongKind
    match ← mergePlace? start entries with
    | none => return []
    | some place => do
      setEntries number (entries.eraseIdx place)
      let first ← mergedAt fuel ((entries[place]?.map (·.2)).getD 0)
      let later ← mergedFrom fuel number place
      return first ++ later

/-- The entries of a mapping, or of a sequence of mappings, where the first takes precedence. -/
def mergedAt : Nat → Nat → Constructing (List (Nat × Nat))
  | 0, _ => return []
  | fuel + 1, number => do
    match (← nodeAt number).content with
    | .scalar _ => throw .badMerge
    | .mapping _ => do
      flatten fuel number
      entriesAt number .badMerge
    | .sequence items => do
      let lists ← items.mapM fun item => do
        let _ ← entriesAt item .badMerge
        flatten fuel item
        entriesAt item .badMerge
      return lists.reverse.flatten

end

/-- Each step of merging takes a key out, and there are no more than there are entries. -/
def mergeFuel : Constructing Nat := do
  let counts := (← get).nodes.map fun n =>
    match n.content with
    | .mapping entries => entries.length
    | _ => 0
  return 3 * (counts.foldl (· + ·) 0) + 3

/-- The text of a scalar. A mapping stands for the text under its default key, and one that stands
for itself has none. -/
def textAt : Nat → Nat → Constructing String
  | 0, _ => throw .tooDeep
  | fuel + 1, number => do
    match (← nodeAt number).content with
    | .scalar text => return text
    | .sequence _ => throw .wrongKind
    | .mapping entries => do
      match ← entries.findM? fun e => hasTag .default e.1 with
      | some e => textAt fuel e.2
      | none => throw .wrongKind

def size : Constructing Nat := return (← get).nodes.size

def isScalar (number : Nat) : Constructing Bool := do
  match (← nodeAt number).content with
  | .scalar _ => return true
  | _ => return false

/-- The value of a scalar. A time is read from its own text and not from a mapping that has one. -/
def scalarAt (tag : Tag) (number : Nat) : Constructing Scalar := do
  let text ← textAt (← size) number
  if tag == .time && !(← isScalar number) then throw (.scalar .timeInMapping)
  else tag.scalarOf text

def begin (number : Nat) : Constructing Part := do
  let s ← get
  if !s.begun.getD number true then
    set { s with begun := s.begun.set! number true, waiting := number :: s.waiting }
  return .collection number

def part (number : Nat) : Constructing Part := do
  match (← nodeAt number).tag with
  | .list | .mapping | .set | .pairs => begin number
  | .merge => throw (.unknownTag .merge)
  | .default => throw (.unknownTag .default)
  | .other name => throw (.unknownTag (.other name))
  | tag => return .scalar (← scalarAt tag number)

def entryParts (e : Nat × Nat) : Constructing (Scalar × Part) := do
  match ← part e.1 with
  | .scalar key => return (key, ← part e.2)
  | .collection _ => throw .badKey

def mappingEntries (number : Nat) : Constructing (List (Scalar × Part)) := do
  let _ ← entriesAt number .wrongKind
  flatten (← mergeFuel) number
  let parts ← (← entriesAt number .wrongKind).mapM entryParts
  return entriesOf parts

/-- The key and the value of a mapping of one entry. -/
def pairAt (number : Nat) : Constructing (Part × Part) := do
  match ← entriesAt number .wrongKind with
  | [(key, value)] => return (← part key, ← part value)
  | _ => throw .wrongKind

def fillingAt (number : Nat) : Constructing Filling := do
  match (← nodeAt number).tag with
  | .mapping => return .mapping (← mappingEntries number)
  | .set => return .set ((← mappingEntries number).map (·.1))
  | .pairs => return .pairs (← (← itemsAt number).mapM pairAt)
  | _ => return .list (← (← itemsAt number).mapM part)

def fill (number : Nat) : Constructing Unit := do
  let filling ← fillingAt number
  modify fun s => { s with fillings := s.fillings.set! number (some filling) }

/-- Fill the waiting collections, then those that are begun by that, and so on. -/
def fillAll : Nat → Constructing Unit
  | 0 => pure ()
  | fuel + 1 => do
    match (← get).waiting with
    | [] => pure ()
    | waiting => do
      modify ({ · with waiting := [] })
      waiting.reverse.forM fill
      fillAll fuel

end Constructing

/-- The root of a document and what the collections below it hold. -/
structure Contents where
  root : Part
  fillings : Array (Option Filling)

/-- Every round fills a collection that was not filled before. -/
def Contents.ofGraph (g : Graph) : Except Flaw Contents := do
  let build : Constructing Part := do
    let root ← Constructing.part g.root
    Constructing.fillAll (g.nodes.size + 1)
    return root
  let (root, s) ← build.run {
    nodes := g.nodes
    begun := Array.replicate g.nodes.size false
    fillings := Array.replicate g.nodes.size none }
  return ⟨root, s.fillings⟩

end FluentKotlin.Yaml
