import BrainfuckC.Compilation
import BrainfuckC.Proofs.Bracket.Opened
import BrainfuckC.Proofs.Emission.Decoding
import BrainfuckC.Proofs.Location.Shift

/-!
# Compilation of concatenated sources

A source with well formed loops may be compiled apart from what follows it. Behind
it nothing is left over: all loops are closed and the depth is the one at the
beginning, and what the following text does not know, where it stands, is a
matter of moving its locations. The cut may be anywhere, in the middle of a line
or of a comment.
-/

namespace BrainfuckC

/-- The code of the first of two programs does not matter to the second one if
its loops are well formed. -/
theorem Program.code_append_relocate {p : Program} (h : p.loopFault? = none)
    (g : Location → Location) (q : Program) (d : Int) :
    code d (p ++ q.relocate g) = p.code d ++ q.code d := by
  rw [code_append, depthBehind_of_balanced ((loopFault?_eq_none_iff p).1 h),
    code_eq_of_map_op_eq (map_op_relocate g q)]

theorem Program.loopFault?_ofText_append {a : Text} (h : (ofText a).loopFault? = none)
    (b : Text) :
    (ofText (a ++ b)).loopFault? = (ofText b).loopFault?.map (·.relocate (Location.shift a)) := by
  rw [ofText_append, loopFault?_append h, loopFault?_relocate]

/-- Compilation composes over concatenation, if the loop check accepts the first
source. The instructions of the second one follow, moved behind the first. The
verdict is that on the second source, with a fault moved in the same way. The
lines between the preface and the last brace are those of the first source and
then those of the second. -/
theorem compilation_append {a : Text} (h : (Program.ofText a).loopFault? = none) (b : Text) :
    Program.ofText (a ++ b) =
      Program.ofText a ++ (Program.ofText b).relocate (Location.shift a) ∧
    ((Program.ofText (a ++ b)).loopFault? = none ↔ (Program.ofText b).loopFault? = none) ∧
    (∀ f, (Program.ofText b).loopFault? = some f →
      (Program.ofText (a ++ b)).loopFault? = some ⟨f.kind, f.location.shift a⟩) ∧
    ∀ o : Options, (o.strict = true → (Program.ofText b).loopFault? = none) →
      ∃ (first second whole : Compilation) (linesA linesB : Text),
        Compilation.ofText o a = .ok first ∧
        Compilation.ofText o b = .ok second ∧
        Compilation.ofText o (a ++ b) = .ok whole ∧
        first.code = Code.preface ++ linesA ++ "\x7d\n".toList ∧
        second.code = Code.preface ++ linesB ++ "\x7d\n".toList ∧
        whole.code = Code.preface ++ (linesA ++ linesB) ++ "\x7d\n".toList := by
  have hverdict := Program.loopFault?_ofText_append h b
  refine ⟨Program.ofText_append a b, ?_, ?_, ?_⟩
  · rw [hverdict, Option.map_eq_none_iff]
  · intro f hf
    rw [hverdict, hf]
    rfl
  · intro o ho
    have haccepted : ∀ p : Program, (o.strict = true → p.loopFault? = none) →
        p.refusal? o = none := by
      intro p hp
      rw [Program.refusal?]
      split
      · exact hp ‹_›
      · rfl
    have hwhole : o.strict = true → (Program.ofText (a ++ b)).loopFault? = none := by
      intro hstrict
      rw [hverdict, ho hstrict]
      rfl
    refine ⟨_, _, _, (Program.ofText a).code Program.startDepth,
      (Program.ofText b).code Program.startDepth,
      Compilation.ofText_eq_ok_iff.2 ⟨haccepted _ fun _ => h, rfl⟩,
      Compilation.ofText_eq_ok_iff.2 ⟨haccepted _ ho, rfl⟩,
      Compilation.ofText_eq_ok_iff.2 ⟨haccepted _ hwhole, rfl⟩, rfl, rfl, ?_⟩
    rw [← Program.code_append_relocate h (Location.shift a), ← Program.ofText_append]
    rfl

/-- The cut falls into the middle of a line, and the second source has a surplus
bracket. -/
theorem compilation_append_within_line :
    let a : Text := "+[-]\n>x".toList
    let b : Text := ",].".toList
    (Program.ofText a).loopFault? = none ∧
    (Program.ofText b).loopFault? = some ⟨.unmatched, ⟨1, 2⟩⟩ ∧
    (Program.ofText (a ++ b)).loopFault? = some ⟨.unmatched, Location.shift a ⟨1, 2⟩⟩ ∧
    ∃ (first second whole : Compilation) (linesA linesB : Text),
      Compilation.ofText ⟨false, true⟩ a = .ok first ∧
      Compilation.ofText ⟨false, true⟩ b = .ok second ∧
      Compilation.ofText ⟨false, true⟩ (a ++ b) = .ok whole ∧
      first.code = Code.preface ++ linesA ++ "\x7d\n".toList ∧
      second.code = Code.preface ++ linesB ++ "\x7d\n".toList ∧
      whole.code = Code.preface ++ (linesA ++ linesB) ++ "\x7d\n".toList := by
  intro a b
  have ha : (Program.ofText a).loopFault? = none := by decide
  have hb : (Program.ofText b).loopFault? = some ⟨.unmatched, ⟨1, 2⟩⟩ := by decide
  obtain ⟨-, -, hfault, hlines⟩ := compilation_append ha b
  exact ⟨ha, hb, hfault _ hb, hlines ⟨false, true⟩ (by decide)⟩

end BrainfuckC
