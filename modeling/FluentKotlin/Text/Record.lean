/-! # Records as text

A record is shown by its name and its fields, and a sequence of fixed length by its items, where
a single item keeps its comma.
-/

namespace FluentKotlin.Text

def recordField (field : String × String) : String := field.1 ++ "=" ++ field.2

def record (name : String) (fields : List (String × String)) : String :=
  name ++ "(" ++ String.intercalate ", " (fields.map recordField) ++ ")"

def tuple : List String → String
  | [] => "()"
  | [item] => "(" ++ item ++ ",)"
  | items => "(" ++ String.intercalate ", " items ++ ")"

end FluentKotlin.Text
