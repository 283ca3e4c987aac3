import FluentKotlin.Report.Basic

/-! # The journal of a pass

A journal writes reports as lines and keeps the findings. Debug lines are written only where they
are asked for. They are drawn as a tree: a line at a depth has a cell for each depth above it, and
the cell shows a guide while a line at its depth is kept open.
-/

namespace FluentKotlin

inductive Level where
  | debug
  | info
  | warning
  | error
  deriving DecidableEq, Repr, Inhabited

def Level.word : Level → String
  | debug => "DEBUG"
  | info => "INFO"
  | warning => "WARNING"
  | error => "ERROR"

def Severity.level : Severity → Level
  | warning => .warning
  | error => .error

structure LogLine where
  level : Level
  text : String
  deriving DecidableEq, Repr, Inhabited

def LogLine.written (l : LogLine) : String := l.level.word ++ " " ++ l.text

namespace Finding

/-- The texts that are there and not empty. -/
def present (ts : List (Option String)) : List String :=
  (ts.filterMap id).filter (· ≠ "")

def place (f : Finding) : String := String.intercalate "." (present [f.domain, f.property])

def written (f : Finding) : String :=
  let text := if f.place = "" then f.message else f.place ++ ": " ++ f.message
  match present [f.fallback] with
  | [fallback] => text ++ " (fallback: " ++ fallback ++ ")"
  | _ => text

end Finding

structure Journal where
  debugEnabled : Bool := false
  findings : List Finding := []
  lines : List LogLine := []
  /-- The depths whose guides are open. -/
  openTiers : List Int := []
  deriving Inhabited

namespace Journal

def cell (openTiers : List Int) (tier : Int) : String :=
  if openTiers.contains tier then "|  " else "   "

/-- The tree in front of a line at a depth. -/
def treeText (openTiers : List Int) (tier : Int) : String :=
  if tier ≤ 0 then ""
  else
    String.join ((List.range (tier - 1).toNat).map fun (i : Nat) => cell openTiers (i + 1))
      ++ "|__ "

/-- A line closes the guides at its depth and below, and may open one at its own. -/
def moveGuides (openTiers : List Int) (tier : Int) (branch : Bool) : List Int :=
  openTiers.filter (· < tier) ++ (if branch then [tier] else [])

def write (j : Journal) (level : Level) (text : String) : Journal :=
  { j with lines := j.lines ++ [⟨level, text⟩] }

def add (j : Journal) : Report → Journal
  | .debug tier branch message =>
    if j.debugEnabled then
      { j.write .debug (treeText j.openTiers tier ++ message) with
        openTiers := moveGuides j.openTiers tier branch }
    else j
  | .note message => if j.debugEnabled then j.write .debug message else j
  | .info message => j.write .info message
  | .finding f =>
    { j.write f.severity.level f.written with findings := j.findings ++ [f] }

def addAll (j : Journal) (rs : List Report) : Journal := rs.foldl add j

def ofReports (debugEnabled : Bool) (rs : List Report) : Journal :=
  addAll { debugEnabled } rs

def warnings (j : Journal) : List Finding := j.findings.filter (·.severity == .warning)

def errors (j : Journal) : List Finding := j.findings.filter (·.severity == .error)

@[simp] theorem addAll_nil (j : Journal) : j.addAll [] = j := rfl

@[simp] theorem addAll_cons (j : Journal) (r : Report) (rs : List Report) :
    j.addAll (r :: rs) = (j.add r).addAll rs := rfl

theorem addAll_append (j : Journal) (rs ss : List Report) :
    j.addAll (rs ++ ss) = (j.addAll rs).addAll ss := by
  simp [addAll]

end Journal

end FluentKotlin
