import FluentKotlin.NameError
import FluentKotlin.Text.Blank
import FluentKotlin.Text.Case
import FluentKotlin.Text.Segments

/-! # Class names

A class lies in a package, inside any number of enclosing classes. A qualified name is split
before its first segment that starts with a capital, and before its last segment where there is
none.
-/

namespace FluentKotlin

structure ClassName where
  package : String
  enclosing : List String
  simpleName : String
  nullable : Bool := false
  deriving DecidableEq, Repr, Inhabited

def nullMark (nullable : Bool) : String := if nullable then "?" else ""

/-- The simple names without their last, and the last. -/
def splitLast? (names : List String) : Option (List String × String) :=
  names.getLast?.map fun last => (names.dropLast, last)

def startsUppercase (s : String) : Bool :=
  match s.toList with
  | [] => false
  | c :: _ => Text.isUppercase c

/-- The segments before and from the first that starts with a capital. -/
def splitAtClass (parts : List String) : List String × List String :=
  let package := parts.takeWhile (!startsUppercase ·)
  if package.length < parts.length then (package, parts.drop package.length)
  else (parts.dropLast, parts.drop (parts.length - 1))

namespace ClassName

def ofNames (package : String) (names : List String) : Except NameError ClassName :=
  match splitLast? names with
  | some (enclosing, simpleName) => .ok { package, enclosing, simpleName }
  | none => .error .noSimpleName

/-- The non-empty segments of a dotted name. -/
def nameSegments (text : String) : List String :=
  (Text.segments '.' (Text.trim text)).filter (· ≠ "")

def ofQualified (text : String) : Except NameError ClassName :=
  let (package, names) := splitAtClass (nameSegments text)
  match splitLast? names with
  | some (enclosing, simpleName) =>
    .ok { package := String.intercalate "." package, enclosing, simpleName }
  | none => .error (.invalid text)

def simpleNames (c : ClassName) : List String := c.enclosing ++ [c.simpleName]

def withNullable (c : ClassName) (nullable : Bool) : ClassName := { c with nullable }

def nonNull (c : ClassName) : ClassName := c.withNullable false

def topName (c : ClassName) : String := c.enclosing.headD c.simpleName

/-- The outermost enclosing class. -/
def topLevel (c : ClassName) : ClassName :=
  { package := c.package, enclosing := [], simpleName := c.topName }

def nested (c : ClassName) (name : String) : ClassName :=
  { c with enclosing := c.simpleNames, simpleName := name }

/-- The class of another name in the same place. -/
def peer (c : ClassName) (name : String) : ClassName := { c with simpleName := name }

def localName (c : ClassName) : String := String.intercalate "." c.simpleNames

def canonicalName (c : ClassName) : String :=
  if c.package = "" then c.localName else c.package ++ "." ++ c.localName

/-- The name as it stands in a file that imports the class. -/
def rendered (c : ClassName) : String := c.localName ++ nullMark c.nullable

def written (c : ClassName) : String := c.canonicalName ++ nullMark c.nullable

end ClassName

theorem splitLast?_eq_some {names before : List String} {last : String} :
    splitLast? names = some (before, last) ↔ names = before ++ [last] := by
  simp only [splitLast?, Option.map_eq_some_iff, Prod.mk.injEq, List.getLast?_eq_some_iff]
  constructor
  · rintro ⟨_, ⟨ys, rfl⟩, rfl, rfl⟩
    simp
  · rintro rfl
    exact ⟨last, ⟨before, rfl⟩, by simp⟩

namespace ClassName

@[simp] theorem withNullable_nullable (c : ClassName) : c.withNullable c.nullable = c := rfl

@[simp] theorem nonNull_withNullable (c : ClassName) (b : Bool) :
    (c.withNullable b).nonNull = c.nonNull := rfl

end ClassName

end FluentKotlin
