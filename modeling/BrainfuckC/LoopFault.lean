import BrainfuckC.Program

/-!
# Loop faults

Loops are well formed if every `loopEnd` closes a `loopBegin` that stands before
it and every `loopBegin` is closed. A program that is not well formed has a
first fault: the first `loopEnd` that closes nothing or, if there is none, the
innermost `loopBegin` that is still open at the end.

The check reads the program once. The locations of the open loops are carried
along explicitly, the innermost one first, so a prefix of a program acts on what
follows it through them alone.
-/

namespace BrainfuckC

/-- What is wrong with a loop: a `loopEnd` closes nothing, or nothing closes a
`loopBegin`. -/
inductive LoopFault.Kind where
  | unmatched
  | unclosed
  deriving DecidableEq

structure LoopFault where
  kind : LoopFault.Kind
  location : Location
  deriving DecidableEq

namespace LoopFault.Kind

def summary : LoopFault.Kind → Text
  | unmatched => "Unmatched ']'".toList
  | unclosed => "Unclosed '['".toList

end LoopFault.Kind

namespace Program

/-- The first loop fault of a program inside of the loops that began at
`opened`, the innermost one first. -/
def loopFaultIn? (opened : List Location) : Program → Option LoopFault
  | [] => opened.head?.map (⟨.unclosed, ·⟩)
  | i :: p =>
    match i.op with
    | .loopBegin => loopFaultIn? (i.location :: opened) p
    | .loopEnd =>
      match opened with
      | [] => some ⟨.unmatched, i.location⟩
      | _ :: outer => loopFaultIn? outer p
    | _ => loopFaultIn? opened p

def loopFault? (p : Program) : Option LoopFault := loopFaultIn? [] p

@[simp] theorem loopFaultIn?_nil_nil : loopFaultIn? [] [] = none := rfl

@[simp] theorem loopFaultIn?_cons_nil (l : Location) (opened : List Location) :
    loopFaultIn? (l :: opened) [] = some ⟨.unclosed, l⟩ := rfl

/-- A loop that begins is the innermost one from there on. -/
theorem loopFaultIn?_loopBegin (opened : List Location) (l : Location) (p : Program) :
    loopFaultIn? opened (⟨.loopBegin, l⟩ :: p) = loopFaultIn? (l :: opened) p := rfl

theorem loopFaultIn?_loopEnd_nil (l : Location) (p : Program) :
    loopFaultIn? [] (⟨.loopEnd, l⟩ :: p) = some ⟨.unmatched, l⟩ := rfl

theorem loopFaultIn?_loopEnd_cons (b : Location) (opened : List Location) (l : Location)
    (p : Program) :
    loopFaultIn? (b :: opened) (⟨.loopEnd, l⟩ :: p) = loopFaultIn? opened p := rfl

/-- The other six operations open and close nothing. -/
theorem loopFaultIn?_cons_of_ne {i : Instruction} (hb : i.op ≠ .loopBegin)
    (he : i.op ≠ .loopEnd) (opened : List Location) (p : Program) :
    loopFaultIn? opened (i :: p) = loopFaultIn? opened p := by
  obtain ⟨o, l⟩ := i
  cases o <;> first | rfl | contradiction

end Program

end BrainfuckC
