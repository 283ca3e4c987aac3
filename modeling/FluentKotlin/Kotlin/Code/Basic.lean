import FluentKotlin.Kotlin.TypeName
import FluentKotlin.Value.Written

/-! # Code blocks

A code block is a format with arguments for its holes. An argument is a scalar, a type, a code
block, a list of code blocks that stand for named arguments, or a declaration that is referred to
by its name.
-/

namespace FluentKotlin

mutual

structure CodeBlock where
  format : String
  arguments : List Argument

inductive Argument where
  | scalar (value : Scalar)
  | type (name : TypeName)
  | code (block : CodeBlock)
  | arguments (blocks : List CodeBlock)
  /-- A declaration by its name, with the text that shows it in a message. -/
  | declaration (name : Option String) (shown : String)

end

instance : Inhabited CodeBlock := ⟨⟨"", []⟩⟩

namespace Argument

def text (s : String) : Argument := .scalar (.text s)

def isNull : Argument → Bool
  | .scalar .null => true
  | _ => false

/-- The blocks that the argument stands for. -/
def blocks : Argument → List CodeBlock
  | .code block => [block]
  | .arguments blocks => blocks
  | .scalar _ | .type _ | .declaration _ _ => []

end Argument

theorem CodeBlock.sizeOf_lt_of_mem {b c : CodeBlock} {a : Argument} (ha : a ∈ b.arguments)
    (hc : c ∈ a.blocks) : sizeOf c < sizeOf b := by
  have hab : sizeOf a < sizeOf b := by
    have hl := List.sizeOf_lt_of_mem ha
    cases b
    simp only [CodeBlock.mk.sizeOf_spec] at *
    omega
  refine Nat.lt_trans ?_ hab
  cases a with
  | code block =>
    obtain rfl : c = block := by simpa [Argument.blocks] using hc
    simp
  | arguments blocks =>
    have hl := List.sizeOf_lt_of_mem (show c ∈ blocks from hc)
    simp only [Argument.arguments.sizeOf_spec]
    omega
  | scalar | type | declaration => cases hc

/-- What a block inherits from the blocks among its arguments holds of every block. -/
theorem CodeBlock.nested_induction {P : CodeBlock → Prop}
    (step : ∀ b : CodeBlock, (∀ a ∈ b.arguments, ∀ c ∈ a.blocks, P c) → P b) (b : CodeBlock) :
    P b :=
  sizeOfWFRel.wf.induction b fun b ih =>
    step b fun _ ha c hc => ih c (sizeOf_lt_of_mem ha hc)

mutual

/-- The classes that the types among the arguments refer to, at every depth. -/
def CodeBlock.references : CodeBlock → List ClassName
  | ⟨_, arguments⟩ => argumentReferences arguments

def argumentReferences : List Argument → List ClassName
  | [] => []
  | a :: as => a.references ++ argumentReferences as

def Argument.references : Argument → List ClassName
  | .scalar _ => []
  | .type t => t.references
  | .code block => block.references
  | .arguments blocks => codeReferences blocks
  | .declaration _ _ => []

def codeReferences : List CodeBlock → List ClassName
  | [] => []
  | b :: bs => b.references ++ codeReferences bs

end

theorem argumentReferences_eq_flatMap (as : List Argument) :
    argumentReferences as = as.flatMap Argument.references := by
  induction as with
  | nil => simp [argumentReferences]
  | cons a as ih => simp [argumentReferences, ih]

theorem codeReferences_eq_flatMap (bs : List CodeBlock) :
    codeReferences bs = bs.flatMap CodeBlock.references := by
  induction bs with
  | nil => simp [codeReferences]
  | cons b bs ih => simp [codeReferences, ih]

theorem CodeBlock.references_eq_flatMap (b : CodeBlock) :
    b.references = b.arguments.flatMap Argument.references := by
  cases b
  rw [references, argumentReferences_eq_flatMap]

end FluentKotlin
