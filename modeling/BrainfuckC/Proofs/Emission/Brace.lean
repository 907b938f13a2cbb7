import BrainfuckC.Proofs.Bracket.Verdict
import BrainfuckC.Proofs.Emission.Line

/-!
# Braces of the emitted code

A block of C is open where more braces have been opened than closed. Every line
of the code holds one brace at most, so the balance of braces changes with the
lines only, and behind a line it is the depth of the emission behind its
instruction: not the depth at which a line is printed, which stops at the
margin, but the depth that is carried along, which does not.

The loop check is a question about the same numbers. It accepts what leaves the
block of `main` open until its last brace; otherwise it finds the block closed
too early, or not closed at the end.
-/

namespace BrainfuckC

namespace Text

/-- The opening braces less the closing ones. -/
def braceBalance (t : Text) : Int := t.count '\x7b' - t.count '\x7d'

@[simp] theorem braceBalance_nil : braceBalance [] = 0 := rfl

@[simp] theorem braceBalance_append (s t : Text) :
    braceBalance (s ++ t) = braceBalance s + braceBalance t := by
  simp only [braceBalance, List.count_append]
  omega

theorem braceBalance_blanks (n : Nat) : braceBalance (List.replicate n ' ') = 0 := by
  simp [braceBalance, List.count_replicate]

end Text

open Text

namespace Op

/-- A statement raises the balance as its operation raises the depth. -/
theorem braceBalance_statement (o : Op) :
    braceBalance (o.statement ++ ['\n']) = o.depthBehind 0 := by
  cases o <;> decide

/-- Inside of a statement the balance has changed already, or not yet. -/
theorem braceBalance_take_statement (o : Op) (k : Nat) :
    braceBalance ((o.statement ++ ['\n']).take k) = 0 ∨
      braceBalance ((o.statement ++ ['\n']).take k) = o.depthBehind 0 := by
  by_cases hk : k < 19
  · have hall : ∀ k < 19, ∀ o ∈ all, braceBalance ((statement o ++ ['\n']).take k) = 0 ∨
        braceBalance ((statement o ++ ['\n']).take k) = depthBehind 0 o := by decide
    exact hall k hk o o.mem_all
  · have hlen : (o.statement ++ ['\n']).length ≤ 19 := by cases o <;> decide
    rw [List.take_of_length_le (by omega)]
    exact .inr o.braceBalance_statement

theorem depthBehind_eq_add (d : Int) (o : Op) : o.depthBehind d = d + o.depthBehind 0 := by
  cases o <;> simp only [depthBehind] <;> omega

end Op

namespace Instruction

theorem braceBalance_codeLine (d : Int) (i : Instruction) :
    braceBalance (i.codeLine d) = i.op.depthBehind d - d := by
  rw [codeLine_eq, lineAt, Code.line, List.append_assoc, braceBalance_append,
    braceBalance_blanks, i.op.braceBalance_statement, i.op.depthBehind_eq_add d]
  omega

theorem braceBalance_take_codeLine (d : Int) (i : Instruction) (k : Nat) :
    braceBalance ((i.codeLine d).take k) = 0 ∨
      braceBalance ((i.codeLine d).take k) = i.op.depthBehind d - d := by
  rw [codeLine_eq, lineAt, Code.line, List.append_assoc, List.take_append,
    braceBalance_append, List.take_replicate, braceBalance_blanks, i.op.depthBehind_eq_add d]
  rcases i.op.braceBalance_take_statement (k - (List.replicate _ ' ').length) with h | h
  · exact .inl (by rw [h]; rfl)
  · exact .inr (by rw [h]; omega)

end Instruction

namespace Program

theorem braceBalance_code (d : Int) (p : Program) :
    braceBalance (p.code d) = p.depthBehind d - d := by
  induction p generalizing d with
  | nil => simp
  | cons i p ih =>
    rw [code_cons, braceBalance_append, i.braceBalance_codeLine, ih, depthBehind_cons]
    omega

/-- Wherever the code is cut, the balance is the one behind some part of the
program. -/
theorem exists_prefix_of_take_code (d : Int) (p : Program) (k : Nat) :
    ∃ q : Program, q <+: p ∧ braceBalance ((p.code d).take k) = q.depthBehind d - d := by
  induction p generalizing d k with
  | nil => exact ⟨[], List.prefix_rfl, by simp⟩
  | cons i p ih =>
    rw [code_cons, List.take_append, braceBalance_append]
    by_cases hk : k ≤ (i.codeLine d).length
    · rw [Nat.sub_eq_zero_of_le hk, List.take_zero, braceBalance_nil, Int.add_zero]
      rcases i.braceBalance_take_codeLine d k with h | h
      · exact ⟨[], List.nil_prefix, by rw [h, depthBehind_nil]; omega⟩
      · exact ⟨[i], List.cons_prefix_cons.2 ⟨rfl, List.nil_prefix⟩, h⟩
    · obtain ⟨q, hq, hbalance⟩ := ih (i.op.depthBehind d) (k - (i.codeLine d).length)
      refine ⟨i :: q, List.cons_prefix_cons.2 ⟨rfl, hq⟩, ?_⟩
      rw [List.take_of_length_le (by omega), i.braceBalance_codeLine, hbalance,
        depthBehind_cons]
      omega

theorem exists_take_code_of_prefix (d : Int) {p q : Program} (h : q <+: p) :
    ∃ k, k ≤ (p.code d).length ∧ braceBalance ((p.code d).take k) = q.depthBehind d - d := by
  rcases h with ⟨r, rfl⟩
  refine ⟨(q.code d).length, ?_, ?_⟩
  · rw [code_append, List.length_append]
    exact Nat.le_add_right _ _
  · rw [code_append, List.take_left, braceBalance_code]

end Program

/-- Between the end of the preface and the last brace, the balance at each cut is
the depth behind some part of the program. -/
theorem exists_prefix_of_take_render {preface : Text} (hpreface : braceBalance preface = 1)
    (p : Program) {k : Nat} (h₁ : preface.length ≤ k)
    (h₂ : k ≤ (preface ++ p.code Program.startDepth).length) :
    ∃ q : Program, q <+: p ∧
      braceBalance ((p.render preface).take k) = q.depthBehind Program.startDepth := by
  obtain ⟨q, hq, hbalance⟩ :=
    Program.exists_prefix_of_take_code Program.startDepth p (k - preface.length)
  refine ⟨q, hq, ?_⟩
  rw [Program.render, List.take_append_of_le_length h₂, List.take_append,
    List.take_of_length_le h₁, braceBalance_append, hpreface, hbalance, Program.startDepth]
  omega

theorem exists_take_render_of_prefix {preface : Text} (hpreface : braceBalance preface = 1)
    {p q : Program} (h : q <+: p) :
    ∃ k, preface.length ≤ k ∧ k ≤ (preface ++ p.code Program.startDepth).length ∧
      braceBalance ((p.render preface).take k) = q.depthBehind Program.startDepth := by
  obtain ⟨k, hk, hbalance⟩ := Program.exists_take_code_of_prefix Program.startDepth h
  refine ⟨preface.length + k, by omega, by rw [List.length_append]; omega, ?_⟩
  rw [Program.render, List.append_assoc, List.take_length_add_append, braceBalance_append,
    List.take_append_of_le_length hk, hpreface, hbalance, Program.startDepth]
  omega

theorem braceBalance_render {preface : Text} (hpreface : braceBalance preface = 1)
    (p : Program) :
    braceBalance (p.render preface) =
      p.occurrences .loopBegin - p.occurrences .loopEnd := by
  have hclosing : braceBalance Code.closing = -1 := by decide
  rw [Program.render, braceBalance_append, braceBalance_append, hpreface, hclosing,
    Program.braceBalance_code, Program.depthBehind_eq]
  omega

theorem forall_balance_iff {preface : Text} (hpreface : braceBalance preface = 1)
    (p : Program) :
    (∀ k, preface.length ≤ k → k ≤ (preface ++ p.code Program.startDepth).length →
      1 ≤ braceBalance ((p.render preface).take k)) ↔ p.StaysOpen 0 := by
  constructor
  · intro h q hq
    obtain ⟨k, hk₁, hk₂, hbalance⟩ := exists_take_render_of_prefix hpreface hq
    have hk := h k hk₁ hk₂
    rw [hbalance, Program.depthBehind_eq, Program.startDepth] at hk
    omega
  · intro h k hk₁ hk₂
    obtain ⟨q, hq, hbalance⟩ := exists_prefix_of_take_render hpreface p hk₁ hk₂
    have hcount := h q hq
    rw [hbalance, Program.depthBehind_eq, Program.startDepth]
    omega

/-- The block is closed at some cut if a part of the program closes too many
loops. The first such part closes just one loop too many. -/
theorem exists_balance_iff {preface : Text} (hpreface : braceBalance preface = 1)
    (p : Program) :
    (∃ k, preface.length ≤ k ∧ k ≤ (preface ++ p.code Program.startDepth).length ∧
      braceBalance ((p.render preface).take k) = 0) ↔ ¬ p.StaysOpen 0 := by
  constructor
  · rintro ⟨k, hk₁, hk₂, hzero⟩ hopen
    have hk := (forall_balance_iff hpreface p).2 hopen k hk₁ hk₂
    omega
  · intro h
    obtain ⟨l, hl⟩ := (Program.exists_unmatched_iff p).2 h
    obtain ⟨before, after, hp, -, hcount⟩ := Program.eq_append_of_unmatchedIn hl
    have hq : before ++ [⟨.loopEnd, l⟩] <+: p := ⟨after, by simp [hp]⟩
    obtain ⟨k, hk₁, hk₂, hbalance⟩ := exists_take_render_of_prefix hpreface hq
    refine ⟨k, hk₁, hk₂, ?_⟩
    rw [hbalance, Program.depthBehind_eq, Program.startDepth]
    simp [Program.occurrences_cons, hcount]
    omega

/-- The loop check accepts a source exactly if the block that the preface leaves
open is closed by the last brace of the code and by none before it. An unmatched
bracket closes it before, and unclosed brackets alone leave a block open. -/
theorem loopCheck_iff_braceBalance (preface source : Text)
    (hpreface : braceBalance preface = 1) :
    ∃ body : Text,
      ((Emitter.fresh false).generate preface (.ofProgram (.ofText source))).1 =
        .ok (body ++ "\x7d\n".toList) ∧
      let balance (k : Nat) := braceBalance ((body ++ "\x7d\n".toList).take k)
      let verdict := (Program.ofText source).loopFault?.map (·.diagnostic source)
      (verdict = none ↔
        (∀ k, preface.length ≤ k → k ≤ body.length → 1 ≤ balance k) ∧
          braceBalance (body ++ "\x7d\n".toList) = 0) ∧
      ((∃ l, verdict = some ⟨"Unmatched ']'".toList, source, l⟩) ↔
        ∃ k, preface.length ≤ k ∧ k ≤ body.length ∧ balance k = 0) ∧
      ((∃ l, verdict = some ⟨"Unclosed '['".toList, source, l⟩) ↔
        (∀ k, preface.length ≤ k → k ≤ body.length → balance k ≠ 0) ∧
          0 < braceBalance (body ++ "\x7d\n".toList)) := by
  have hall := forall_balance_iff hpreface (.ofText source)
  have hzero := exists_balance_iff hpreface (.ofText source)
  have htotal := braceBalance_render hpreface (.ofText source)
  refine ⟨preface ++ (Program.ofText source).code Program.startDepth,
    Emitter.generate_ofProgram _ _ _, ?_, ?_, ?_⟩
  · rw [Option.map_eq_none_iff, Program.loopFault?_eq_none_iff_occurrences]
    apply and_congr hall.symm
    change _ ↔ braceBalance ((Program.ofText source).render preface) = 0
    rw [htotal]
    omega
  · refine Iff.trans ?_ hzero.symm
    rw [← Program.exists_unmatched_iff]
    apply exists_congr
    intro l
    exact LoopFault.map_diagnostic_eq_iff _ .unmatched source l
  · have hnever : (∀ k, preface.length ≤ k →
        k ≤ (preface ++ (Program.ofText source).code Program.startDepth).length →
        braceBalance (((Program.ofText source).render preface).take k) ≠ 0) ↔
          (Program.ofText source).StaysOpen 0 := by
      rw [← not_iff_not, ← hzero]
      simp
    refine Iff.trans (exists_congr fun l =>
      LoopFault.map_diagnostic_eq_iff _ .unclosed source l) ?_
    rw [Program.exists_unclosed_iff]
    apply and_congr hnever.symm
    change _ ↔ 0 < braceBalance ((Program.ofText source).render preface)
    rw [htotal]
    omega

/-- Braces that balance in total do not help if `main` is closed too early. -/
theorem loopCheck_iff_braceBalance_reversed :
    braceBalance Code.preface = 1 ∧ ∃ body : Text,
      ((Emitter.fresh false).generate Code.preface (.ofProgram (.ofText "][".toList))).1 =
        .ok (body ++ "\x7d\n".toList) ∧
      ((∃ l, (Program.ofText "][".toList).loopFault?.map (·.diagnostic "][".toList) =
          some ⟨"Unmatched ']'".toList, "][".toList, l⟩) ↔
        ∃ k, Code.preface.length ≤ k ∧ k ≤ body.length ∧
          braceBalance ((body ++ "\x7d\n".toList).take k) = 0) := by
  have hpreface : braceBalance Code.preface = 1 := by decide
  obtain ⟨body, hbody, -, hunmatched, -⟩ :=
    loopCheck_iff_braceBalance Code.preface "][".toList hpreface
  exact ⟨hpreface, body, hbody, hunmatched⟩

end BrainfuckC
