/-! # Tags

The tag of a node says of what kind its value is. The standard tags share the start of their names,
and a node with any other tag has no value. The tags of merging and of a default are for keys.
-/

namespace FluentKotlin.Yaml

inductive Tag where
  | null
  | bool
  | int
  | float
  | time
  | bytes
  | text
  | list
  | mapping
  | set
  | pairs
  | merge
  | default
  | other (name : String)
  deriving DecidableEq, Repr, Inhabited

namespace Tag

def standardStart : String := "tag:yaml.org,2002:"

def standardTags : List (String × Tag) :=
  [("null", null), ("bool", bool), ("int", int), ("float", float), ("timestamp", time),
    ("binary", bytes), ("str", text), ("seq", list), ("map", mapping), ("set", set),
    ("omap", pairs), ("pairs", pairs), ("merge", merge), ("value", default)]

def ofName (name : String) : Tag :=
  ((standardTags.map fun (n, tag) => (standardStart ++ n, tag)).lookup name).getD (other name)

end Tag

end FluentKotlin.Yaml
