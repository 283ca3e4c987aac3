import FluentKotlin.Text.Segments

/-! # Paths

A path is a root, which may be missing, and the names below it. Empty names and single dots are
left out, and a path with a root that is joined to another takes its place.
-/

namespace FluentKotlin

structure Path where
  /-- The slashes in front: none, one, or exactly two. -/
  root : String := ""
  names : List String := []
  deriving DecidableEq, Repr, Inhabited

namespace Path

def rootOf (s : String) : String :=
  let slashes := (s.toList.takeWhile (· == '/')).length
  if slashes = 0 then "" else if slashes = 2 then "//" else "/"

def isStep (name : String) : Bool := name != "" && name != "."

def ofString (s : String) : Path := ⟨rootOf s, (Text.segments '/' s).filter isStep⟩

def isAbsolute (p : Path) : Bool := p.root != ""

def join (p q : Path) : Path := if q.isAbsolute then q else ⟨p.root, p.names ++ q.names⟩

def joinAll (ps : List Path) : Path := ps.foldl join {}

def written (p : Path) : String :=
  if p.root = "" && p.names.isEmpty then "." else p.root ++ String.intercalate "/" p.names

def parent (p : Path) : Path := { p with names := p.names.dropLast }

/-- Every `..` takes back the name before it. -/
def settle : List String → List String → List String
  | done, [] => done.reverse
  | done, name :: names =>
    if name = ".." then settle done.tail names else settle (name :: done) names

/-- The path seen from a directory, without any `..`. It has no more than one slash in front. -/
def resolve (directory p : Path) : Path :=
  let q := directory.join p
  ⟨if q.root = "//" then "/" else q.root, settle [] q.names⟩

end Path

end FluentKotlin
