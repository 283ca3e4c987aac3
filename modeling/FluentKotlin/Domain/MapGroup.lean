import FluentKotlin.NameError
import FluentKotlin.Text.Blank
import FluentKotlin.Text.Case
import FluentKotlin.Value.Written

/-! # Map groups

How a domain offers its values as the values of a map. Every mode but `none` is active.
-/

namespace FluentKotlin

inductive MapGroup where
  | none
  | single
  | list
  | all
  deriving DecidableEq, Repr, Inhabited

namespace MapGroup

def active (m : MapGroup) : Bool := m != .none

def name : MapGroup → String
  | none => "NONE"
  | single => "SINGLE"
  | list => "LIST"
  | all => "ALL"

def ofName? (s : String) : Option MapGroup :=
  [none, single, list, all].find? (·.name == s)

/-- A truth value turns single groups on or off, and any other value names its mode in letters
of either case. -/
def ofValue : Value → Except NameError MapGroup
  | .scalar .null => .ok none
  | .scalar (.bool false) => .ok none
  | .scalar (.bool true) => .ok single
  | v =>
    let name := Text.upper (Text.trim v.written)
    match ofName? name with
    | some mode => .ok mode
    | Option.none => .error (.unknownMapGroup name)

theorem ofName?_name (m : MapGroup) : ofName? m.name = some m := by
  cases m <;> rfl

end MapGroup

end FluentKotlin
