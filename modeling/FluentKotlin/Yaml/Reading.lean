import FluentKotlin.Value.SetOrder
import FluentKotlin.Yaml.Content

/-! # The value of a YAML text

The value of a collection is made of the values of its parts. A collection around which it already
stands is given by its name, and then every collection on the way between the two is named.
-/

namespace FluentKotlin.Yaml

/-- A value with the names in it that stand for collections around it. -/
structure Shape where
  value : Value
  names : List Nat

/-- The values of the collections that do not contain themselves, as far as they are known. -/
abbrev Shaping := StateM (Array (Option Value))

namespace Shape

def ofScalar (s : Scalar) : Shape := ⟨.scalar s, []⟩

def list (shapes : List Shape) : Shape := ⟨.list (shapes.map (·.value)), shapes.flatMap (·.names)⟩

def mapping (entries : List (Scalar × Shape)) : Shape :=
  ⟨.mapping (entries.map fun (k, s) => (k, s.value)), entries.flatMap fun (_, s) => s.names⟩

def pair (a b : Shape) : Shape := ⟨.pair a.value b.value, a.names ++ b.names⟩

/-- A collection with a name, if a name stands for a collection around a place in it. -/
def named (number : Nat) (s : Shape) : Shape :=
  if s.names.isEmpty then s else ⟨.named number s.value, s.names.filter (· != number)⟩

def ofFilling (shapeOf : Part → Shaping Shape) : Filling → Shaping Shape
  | .list items => return list (← items.mapM shapeOf)
  | .mapping entries => do
    let shapes ← entries.mapM fun e => do return (e.1, ← shapeOf e.2)
    return mapping shapes
  | .set members => return ⟨.set (listedMembers members), []⟩
  | .pairs items => do
    let shapes ← items.mapM fun p => do return pair (← shapeOf p.1) (← shapeOf p.2)
    return list shapes

def filling (c : Contents) (number : Nat) : Filling := (c.fillings.getD number none).getD default

/-- The shape of a part below the given collections. -/
def ofPart (c : Contents) : Nat → List Nat → Part → Shaping Shape
  | _, _, .scalar s => return ofScalar s
  | 0, _, .collection number => return ⟨.again number, [number]⟩
  | fuel + 1, around, .collection number => do
    if around.contains number then return ⟨.again number, [number]⟩
    match (← get).getD number none with
    | some value => return ⟨value, []⟩
    | none => do
      let s ← ofFilling (ofPart c fuel (number :: around)) (filling c number)
      if s.names.isEmpty then modify (·.set! number (some s.value))
      return s.named number

end Shape

/-- No more collections are around a place than there are. -/
def Contents.value (c : Contents) : Value :=
  let size := c.fillings.size
  ((Shape.ofPart c (size + 1) [] c.root).run (Array.replicate size none)).run.1.value

/-- The value of a text, null for a text without a document. -/
def read (text : String) : Except Flaw Value := do
  match ← Graph.ofTokens (.ofText text) with
  | none => return .null
  | some g => return (← Contents.ofGraph g).value

end FluentKotlin.Yaml
