import BrainfuckC.Compilation
import BrainfuckC.Proofs.Bracket.Relocation
import BrainfuckC.Proofs.Emission.Decoding
import BrainfuckC.Proofs.Location.Order

/-!
# Compilation and symbols

The symbols of a source are all that matters to its compilation, and all of them
do. Two sources have the same code exactly if they have the same symbols in the
same order, whatever stands between these, and then the loop check has the same
verdict on both and blames the same one of the symbols.

That a line feed more or a comment less makes no difference to the check is seen
from the program of the symbols alone. That the verdict names an instruction, and
not only a location, is due to the order of the locations in a source.
-/

namespace BrainfuckC

namespace Text

/-- The characters of a text that are symbols of operations. -/
def symbols (t : Text) : Text := t.filter fun c => "+-><,.[]".toList.contains c

theorem contains_symbol_iff (c : Char) :
    "+-><,.[]".toList.contains c ↔ ∃ o, Op.ofChar? c = some o := by
  have hall : "+-><,.[]".toList = Op.all.map Op.symbol := rfl
  rw [List.contains_iff_mem, hall, List.mem_map]
  constructor
  · rintro ⟨o, -, rfl⟩
    exact ⟨o, Op.ofChar?_symbol o⟩
  · rintro ⟨o, ho⟩
    exact ⟨o, o.mem_all, (Op.ofChar?_eq_some_iff.1 ho).symm⟩

theorem symbols_eq_map (t : Text) : t.symbols = (t.filterMap Op.ofChar?).map Op.symbol := by
  induction t with
  | nil => rfl
  | cons c t ih =>
    cases hc : Op.ofChar? c with
    | none =>
      have hnot : ¬ "+-><,.[]".toList.contains c := by
        rw [contains_symbol_iff, hc]
        rintro ⟨o, ⟨⟩⟩
      rw [List.filterMap_cons_none hc, ← ih]
      exact List.filter_cons_of_neg hnot
    | some o =>
      obtain rfl := Op.ofChar?_eq_some_iff.1 hc
      rw [List.filterMap_cons_some hc, List.map_cons, ← ih]
      exact List.filter_cons_of_pos ((contains_symbol_iff _).2 ⟨o, hc⟩)

theorem symbols_eq_iff (s t : Text) :
    s.symbols = t.symbols ↔
      (Program.ofText s).map Instruction.op = (Program.ofText t).map Instruction.op := by
  rw [symbols_eq_map, symbols_eq_map, Program.ofText, Program.ofText, Program.map_op_scanFrom,
    Program.map_op_scanFrom]
  exact List.map_inj_right fun _ _ => Op.symbol_injective

end Text

/-- In a source, a fault stands at one instruction only. -/
theorem LoopFault.IsAt.iff_eq {f : LoopFault} {t : Text} {n : Nat}
    (h : f.IsAt (Program.ofText t) n) (m : Nat) : f.IsAt (Program.ofText t) m ↔ m = n := by
  rw [IsAt, ← List.getElem?_map] at h ⊢
  obtain ⟨hn, -⟩ := List.getElem?_eq_some_iff.1 h
  rw [← h, eq_comm, List.getElem?_inj hn (Program.nodup_map_location t), eq_comm]

/-- The code of a compilation is a function of the symbols of its source, and a
faithful one.

Behind any preface two programs have the same code if and only if they have the
same operations in the same order, wherever these stand. Every source is compiled
unless it is checked and refused, and two compilations have the same code if and
only if their sources have the same symbols in the same order. Two such sources
are both accepted by the loop check or both refused, and then for the same reason
and with the same one of their instructions at fault. -/
theorem code_eq_iff_symbols_eq :
    (∀ (preface : Text) (p q : Program) (e e' : Emitter), ∃ code code' : Text,
      (e.generate preface (.ofProgram p)).1 = .ok code ∧
      (e'.generate preface (.ofProgram q)).1 = .ok code' ∧
      (code = code' ↔ p.map Instruction.op = q.map Instruction.op)) ∧
    (∀ (trace : Bool) (s : Text), ∃ made, Compilation.ofText ⟨false, trace⟩ s = .ok made) ∧
    (∀ (o o' : Options) (s t : Text) (made made' : Compilation),
      Compilation.ofText o s = .ok made → Compilation.ofText o' t = .ok made' →
      (made.code = made'.code ↔ s.symbols = t.symbols)) ∧
    ∀ (trace trace' : Bool) (s t : Text), s.symbols = t.symbols →
      ((∃ made, Compilation.ofText ⟨true, trace⟩ s = .ok made) ↔
        ∃ made, Compilation.ofText ⟨true, trace'⟩ t = .ok made) ∧
      ∀ f, Compilation.ofText ⟨true, trace⟩ s = .error f →
        ∃ f', Compilation.ofText ⟨true, trace'⟩ t = .error f' ∧ f'.kind = f.kind ∧
          ∃ n, (∀ m, f.IsAt (.ofText s) m ↔ m = n) ∧ ∀ m, f'.IsAt (.ofText t) m ↔ m = n := by
  refine ⟨?_, ?_, ?_, ?_⟩
  · intro preface p q e e'
    exact ⟨_, _, Emitter.generate_ofProgram _ _ _, Emitter.generate_ofProgram _ _ _,
      Program.render_eq_render_iff preface p q⟩
  · intro trace s
    exact ⟨_, Compilation.ofText_eq_ok_iff.2 ⟨Program.refusal?_lenient trace _, rfl⟩⟩
  · intro o o' s t made made' hs ht
    obtain ⟨-, rfl⟩ := Compilation.ofText_eq_ok_iff.1 hs
    obtain ⟨-, rfl⟩ := Compilation.ofText_eq_ok_iff.1 ht
    rw [Text.symbols_eq_iff]
    exact Program.render_eq_render_iff _ _ _
  · intro trace trace' s t hsymbols
    obtain ⟨hnone, hsome⟩ := Program.loopFault?_of_map_op_eq ((Text.symbols_eq_iff s t).1 hsymbols)
    constructor
    · simp only [Compilation.ofText_eq_ok_iff, Program.refusal?_strict, hnone]
      simp
    · intro f hf
      rw [Compilation.ofText_eq_error_iff, Program.refusal?_strict] at hf
      obtain ⟨f', n, hf', hkind, hs, ht⟩ := hsome f hf
      refine ⟨f', ?_, hkind, n, hs.iff_eq, ht.iff_eq⟩
      rw [Compilation.ofText_eq_error_iff, Program.refusal?_strict, hf']

/-- Comments and line feeds move the surplus bracket, and it is still the one at
fault. -/
theorem code_eq_iff_symbols_eq_reflowed :
    let s : Text := "+[ a]]".toList
    let t : Text := "+ [\n]\n ]".toList
    s.symbols = t.symbols ∧
    (∃ made made', Compilation.ofText ⟨false, true⟩ s = .ok made ∧
      Compilation.ofText ⟨false, false⟩ t = .ok made' ∧
      (made.code = made'.code ↔ s.symbols = t.symbols)) ∧
    Compilation.ofText ⟨true, true⟩ s = .error ⟨.unmatched, ⟨1, 6⟩⟩ ∧
    ∃ f', Compilation.ofText ⟨true, false⟩ t = .error f' ∧ f'.kind = .unmatched ∧
      ∃ n, (∀ m, LoopFault.IsAt ⟨.unmatched, ⟨1, 6⟩⟩ (.ofText s) m ↔ m = n) ∧
        ∀ m, f'.IsAt (.ofText t) m ↔ m = n := by
  intro s t
  have hsymbols : s.symbols = t.symbols := by decide
  have hfault : Compilation.ofText ⟨true, true⟩ s = .error ⟨.unmatched, ⟨1, 6⟩⟩ := by
    rw [Compilation.ofText_eq_error_iff]
    decide
  obtain ⟨-, htotal, hcode, hverdict⟩ := code_eq_iff_symbols_eq
  obtain ⟨made, hmade⟩ := htotal true s
  obtain ⟨made', hmade'⟩ := htotal false t
  exact ⟨hsymbols, ⟨made, made', hmade, hmade', hcode _ _ s t _ _ hmade hmade'⟩, hfault,
    (hverdict true false s t hsymbols).2 _ hfault⟩

end BrainfuckC
