import FluentKotlin.Kotlin.Reference
import FluentKotlin.Text.Code

/-! # Imports of a file

A file imports the outermost classes of other packages that it mentions, and what it asks for by
name. Classes of its own package, of the default packages and of no package need no import. Two
imports of one name are in conflict, and so are an import and a mentioned class of the package with
the same name.
-/

namespace FluentKotlin

inductive ImportConflict where
  | twoPackages (name first second : String)
  | shadowing (package name : String)
  deriving DecidableEq, Repr, Inhabited

namespace Import

def ofClass (c : ClassName) : Import := ⟨c.package, c.topName⟩

/-- Imports are ordered by package and then by name. -/
def before (a b : Import) : Bool :=
  Text.before a.package b.package || (a.package == b.package && Text.before a.name b.name)

/-- Put an import into an ordered list that holds each import once. -/
def insert (i : Import) : List Import → List Import
  | [] => [i]
  | j :: js => if i.before j then i :: j :: js else if i = j then j :: js else j :: insert i js

def ordered (imports : List Import) : List Import := imports.foldr insert []

/-- The classes of a named package that no file sees by default. -/
def needsPackage (c : ClassName) : Bool :=
  c.package != "" && !defaultPackages.contains c.package

def foreign (package : String) (references : List ClassName) : List Import :=
  ((references.filter needsPackage).filter (·.package != package)).map ofClass

/-- The outermost classes of the package itself that a file mentions. -/
def localNames (package : String) (references : List ClassName) : List String :=
  ((references.filter needsPackage).filter (·.package == package)).map (·.topName)

def conflict? (package : String) (localNames : List String) (seen : List Import) (i : Import) :
    Option ImportConflict :=
  match seen.find? (·.name == i.name) with
  | some first => some (.twoPackages i.name first.package i.package)
  | none =>
    if i.package != package && localNames.contains i.name then some (.shadowing i.package i.name)
    else none

/-- The first conflict in the order of the imports, where `seen` holds those before. -/
def firstConflict? (package : String) (localNames : List String) :
    List Import → List Import → Option ImportConflict
  | _, [] => none
  | seen, i :: is =>
    match conflict? package localNames seen i with
    | some c => some c
    | none => firstConflict? package localNames (seen ++ [i]) is

/-- The imports of a file of the package, from what it asks for and what it mentions. -/
def compute (package : String) (wanted : List Import) (references : List ClassName) :
    Except ImportConflict (List Import) :=
  let found := ordered (wanted ++ foreign package references)
  match firstConflict? package (localNames package references) [] found with
  | some c => .error c
  | none => .ok found

theorem mem_insert {i j : Import} {is : List Import} : j ∈ insert i is ↔ j = i ∨ j ∈ is := by
  induction is with
  | nil => simp [insert]
  | cons k ks ih =>
    unfold insert
    cases i.before k with
    | true => simp
    | false =>
      by_cases h : i = k
      · simp [h]
      · simp only [Bool.false_eq_true, if_false, if_neg h, List.mem_cons, ih]
        grind

theorem mem_ordered {i : Import} {is : List Import} : i ∈ ordered is ↔ i ∈ is := by
  induction is with
  | nil => simp [ordered]
  | cons j js ih =>
    have : ordered (j :: js) = insert j (ordered js) := rfl
    rw [this, mem_insert, ih, List.mem_cons]

end Import

end FluentKotlin
