import BrainfuckC.Emission
import BrainfuckC.LoopFault

/-!
# Compilations

A source text is read, checked if the check is asked for, and emitted. Only the
check can fail, so without it every text has a compilation.
-/

namespace BrainfuckC

/-- What a compilation is asked to do besides emitting code: to refuse loops
that are not well formed, and to keep the trace. -/
structure Options where
  strict : Bool := false
  trace : Bool := false
  deriving DecidableEq

/-- The outcome of a compilation: the C text, the instructions that were read,
and the trace, which is empty unless it was asked for. -/
structure Compilation where
  code : Text
  program : Program
  trace : List Text
  deriving DecidableEq

namespace Program

def refusal? (o : Options) (p : Program) : Option LoopFault :=
  if o.strict then p.loopFault? else none

def keptTrace (o : Options) (p : Program) : List Text :=
  if o.trace then p.trace startDepth else []

@[simp] theorem refusal?_lenient (trace : Bool) (p : Program) :
    p.refusal? ⟨false, trace⟩ = none := rfl

@[simp] theorem refusal?_strict (trace : Bool) (p : Program) :
    p.refusal? ⟨true, trace⟩ = p.loopFault? := rfl

end Program

namespace Compilation

/-- Compiles a text into C behind the given preface. -/
def ofTextWith (preface : Text) (o : Options) (source : Text) : Except LoopFault Compilation :=
  let p := Program.ofText source
  match p.refusal? o with
  | some fault => .error fault
  | none => .ok ⟨p.render preface, p, p.keptTrace o⟩

def ofText (o : Options) (source : Text) : Except LoopFault Compilation :=
  ofTextWith Code.preface o source

theorem ofTextWith_of_refusal {o : Options} {source : Text} {fault : LoopFault}
    (h : (Program.ofText source).refusal? o = some fault) (preface : Text) :
    ofTextWith preface o source = .error fault := by
  simp [ofTextWith, h]

/-- A program that is not refused is emitted whole. -/
theorem ofTextWith_of_no_refusal {o : Options} {source : Text}
    (h : (Program.ofText source).refusal? o = none) (preface : Text) :
    ofTextWith preface o source =
      .ok ⟨(Program.ofText source).render preface, .ofText source,
        (Program.ofText source).keptTrace o⟩ := by
  simp [ofTextWith, h]

theorem ofText_eq_error_iff {o : Options} {source : Text} {fault : LoopFault} :
    ofText o source = .error fault ↔ (Program.ofText source).refusal? o = some fault := by
  cases h : (Program.ofText source).refusal? o with
  | none => simp [ofText, ofTextWith_of_no_refusal h]
  | some fault' => simp [ofText, ofTextWith_of_refusal h]

theorem ofText_eq_ok_iff {o : Options} {source : Text} {made : Compilation} :
    ofText o source = .ok made ↔ (Program.ofText source).refusal? o = none ∧
      made = ⟨(Program.ofText source).render Code.preface, .ofText source,
        (Program.ofText source).keptTrace o⟩ := by
  cases h : (Program.ofText source).refusal? o with
  | none => simp [ofText, ofTextWith_of_no_refusal h, eq_comm]
  | some fault => simp [ofText, ofTextWith_of_refusal h]

end Compilation

end BrainfuckC
