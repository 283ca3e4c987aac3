import FluentKotlin.Document.Field
import FluentKotlin.Document.Registry

/-! # Transforms of a document

The transforms are keyed by the qualified names of the types whose values they make. The input
type of a transform is read in the package of its key.
-/

namespace FluentKotlin

abbrev Transforms := List (String × TransformHint)

namespace Transforms

/-- The transforms with one put under a name, where the later one counts. -/
def put (name : String) (hint : TransformHint) : Transforms → Transforms
  | [] => [(name, hint)]
  | (n, h) :: ts => if n = name then (n, hint) :: ts else (n, h) :: put name hint ts

theorem lookup_put (name other : String) (hint : TransformHint) (ts : Transforms) :
    (ts.put name hint).lookup other = if other = name then some hint else ts.lookup other := by
  induction ts with
  | nil =>
    by_cases h : other = name
    · simp [put, h]
    · simp [put, List.lookup_cons, beq_false_of_ne h, h]
  | cons t ts ih =>
    obtain ⟨n, g⟩ := t
    by_cases hn : n = name
    · subst hn
      by_cases h : other = n
      · simp [put, h]
      · simp [put, List.lookup_cons, beq_false_of_ne h, h]
    · by_cases h : other = n
      · subst h
        simp [put, hn]
      · simp [put, List.lookup_cons, beq_false_of_ne h, hn, ih]

end Transforms

def readTypeText (registry : Registry) (package text : String) : Describing (TypeRef × Bool) :=
  (readType registry package text).mapError (.type text)

namespace TransformHint

/-- The package of the type that a key names. Only a text names one. -/
def packageOf : Scalar → Describing String
  | .text name => .ok (Text.qualifier name)
  | key => .error (.transformKey key)

def inputOf (registry : Registry) (key : Scalar) (text : String) : Describing (Option TypeRef) :=
  if text = "" then .ok none
  else do
    let package ← packageOf key
    let (r, _) ← readTypeText registry package text
    return some r

def templateOf (text : String) : Option String := if text = "" then none else some text

def ofEntry (registry : Registry) (key : Scalar) (v : Value) : Describing TransformHint := do
  let entries ← mappingOf ("transforms." ++ (← shown (.scalar key))) v
  let input ← inputOf registry key (← textField "inputType" entries)
  return { input, template := templateOf (← textField "template" entries) }

end TransformHint

namespace Transforms

def ofEntries (registry : Registry) : Transforms → Entries → Describing Transforms
  | ts, [] => .ok ts
  | ts, (key, v) :: entries => do
    let hint ← TransformHint.ofEntry registry key v
    ofEntries registry (ts.put key.written hint) entries

end Transforms

end FluentKotlin
