import BrainfuckC.Diagnostic
import BrainfuckC.Proofs.Bracket.Balanced
import BrainfuckC.Proofs.List
import Mathlib.Order.Bounds.Basic

/-!
# The verdict of the loop check

The check accepts the programs with balanced brackets and no others. A program
that it refuses closes more loops than are open somewhere, and then the fault is
the bracket at which that happens first; or it never does, and then the fault is
the last bracket that leaves a balanced rest behind it.

Everything is proved inside of the loops at `opened` first, where a fact about
the check, the language or the counts changes in the same way with each
instruction. The main statement is about listings, whose foreign symbols are
passed over and take part in the count of positions only.
-/

namespace BrainfuckC

namespace LoopFault

theorem Kind.summary_injective {k k' : Kind} (h : k.summary = k'.summary) : k = k' := by
  revert h
  cases k <;> cases k' <;> decide

/-- What is reported of a fault tells which one it is. -/
theorem map_diagnostic_eq_iff (verdict : Option LoopFault) (kind : Kind) (source : Text)
    (l : Location) :
    verdict.map (·.diagnostic source) = some ⟨kind.summary, source, l⟩ ↔
      verdict = some ⟨kind, l⟩ := by
  constructor
  · intro h
    rcases Option.map_eq_some_iff.1 h with ⟨⟨kind', l'⟩, rfl, hd⟩
    rw [diagnostic, Diagnostic.mk.injEq] at hd
    rcases hd with ⟨hkind, -, rfl⟩
    obtain rfl : kind' = kind := Kind.summary_injective hkind
    rfl
  · rintro rfl
    rfl

end LoopFault

namespace Program

theorem loopFaultIn?_cons_of_not_bracket {o : Op} (h : o.isBracket = false)
    (opened : List Location) (l : Location) (p : Program) :
    loopFaultIn? opened (⟨o, l⟩ :: p) = loopFaultIn? opened p :=
  loopFaultIn?_cons_of_ne (Op.ne_loopBegin_of_not_bracket h) (Op.ne_loopEnd_of_not_bracket h)
    opened p

/-- The induction of the loop check: what comes next in the program, and for the
end of a loop whether one is open. -/
@[elab_as_elim]
theorem induction_inside {motive : List Location → Program → Prop}
    (nil : ∀ opened, motive opened [])
    (loopBegin : ∀ opened l p, motive (l :: opened) p → motive opened (⟨.loopBegin, l⟩ :: p))
    (loopEnd_nil : ∀ l p, motive [] (⟨.loopEnd, l⟩ :: p))
    (loopEnd_cons : ∀ b opened l p, motive opened p →
      motive (b :: opened) (⟨.loopEnd, l⟩ :: p))
    (other : ∀ opened o l p, o.isBracket = false → motive opened p →
      motive opened (⟨o, l⟩ :: p))
    (opened : List Location) (p : Program) : motive opened p := by
  induction p generalizing opened with
  | nil => exact nil opened
  | cons i p ih =>
    rcases i with ⟨o, l⟩
    rcases o.bracket_cases with rfl | rfl | ho
    · exact loopBegin opened l p (ih _)
    · cases opened with
      | nil => exact loopEnd_nil l p
      | cons b opened => exact loopEnd_cons b opened l p (ih _)
    · exact other opened o l p ho (ih _)

theorem loopFaultIn?_eq_none_iff (opened : List Location) (p : Program) :
    loopFaultIn? opened p = none ↔ Closes opened.length p.brackets := by
  induction p generalizing opened with
  | nil => cases opened <;> simp [closes_nil_iff]
  | cons i p ih =>
    rcases i with ⟨o, l⟩
    rcases o.bracket_cases with rfl | rfl | ho
    · rw [loopFaultIn?_loopBegin, ih, brackets_loopBegin_cons, closes_loopBegin_cons_iff]
      exact Iff.rfl
    · cases opened with
      | nil =>
        rw [loopFaultIn?_loopEnd_nil, brackets_loopEnd_cons]
        exact iff_of_false (by simp) (not_balanced_loopEnd_cons _)
      | cons b outer =>
        rw [loopFaultIn?_loopEnd_cons, ih, brackets_loopEnd_cons]
        exact (closes_loopEnd_cons_iff _ _).symm
    · rw [loopFaultIn?_cons_of_not_bracket ho, ih, brackets_cons_of_not_bracket ho]

theorem loopFault?_eq_none_iff (p : Program) : p.loopFault? = none ↔ Balanced p.brackets :=
  loopFaultIn?_eq_none_iff [] p

theorem exists_unmatchedIn_iff (opened : List Location) (p : Program) :
    (∃ l, loopFaultIn? opened p = some ⟨.unmatched, l⟩) ↔ ¬ StaysOpen opened.length p := by
  induction p generalizing opened with
  | nil => cases opened <;> simp [staysOpen_nil]
  | cons i p ih =>
    rcases i with ⟨o, l⟩
    rcases o.bracket_cases with rfl | rfl | ho
    · simp only [loopFaultIn?_loopBegin, ih, staysOpen_loopBegin_cons_iff, List.length_cons]
    · cases opened with
      | nil => simp [loopFaultIn?_loopEnd_nil, not_staysOpen_loopEnd_cons]
      | cons b outer =>
        simp only [loopFaultIn?_loopEnd_cons, ih, List.length_cons, staysOpen_loopEnd_cons_iff]
    · simp only [loopFaultIn?_cons_of_not_bracket ho, ih,
        staysOpen_cons_iff_of_not_bracket ho]

theorem exists_unmatched_iff (p : Program) :
    (∃ l, p.loopFault? = some ⟨.unmatched, l⟩) ↔ ¬ StaysOpen 0 p :=
  exists_unmatchedIn_iff [] p

theorem staysOpen_iff (p : Program) :
    StaysOpen 0 p ↔ ∀ l, p.loopFault? ≠ some ⟨.unmatched, l⟩ := by
  rw [← not_exists, exists_unmatched_iff, not_not]

theorem staysOpen_of_loopFault?_eq_none {p : Program} (h : p.loopFault? = none) :
    StaysOpen 0 p := by
  rw [staysOpen_iff]
  simp [h]

theorem staysOpen_of_unclosed {p : Program} {l : Location}
    (h : p.loopFault? = some ⟨.unclosed, l⟩) : StaysOpen 0 p := by
  rw [staysOpen_iff]
  simp [h]

/-- Up to an unmatched bracket all is well, and all open loops are closed where
it stands. -/
theorem eq_append_of_unmatchedIn {opened : List Location} {p : Program} {l : Location}
    (h : loopFaultIn? opened p = some ⟨.unmatched, l⟩) :
    ∃ before after : Program, p = before ++ ⟨.loopEnd, l⟩ :: after ∧
      StaysOpen opened.length before ∧
      before.occurrences .loopEnd = before.occurrences .loopBegin + opened.length := by
  induction p generalizing opened with
  | nil => cases opened <;> simp at h
  | cons i p ih =>
    rcases i with ⟨o, m⟩
    rcases o.bracket_cases with rfl | rfl | ho
    · rw [loopFaultIn?_loopBegin] at h
      obtain ⟨before, after, rfl, hopen, hcount⟩ := ih h
      refine ⟨⟨.loopBegin, m⟩ :: before, after, rfl, ?_, ?_⟩
      · exact (staysOpen_loopBegin_cons_iff _ _ _).2 hopen
      · rw [List.length_cons] at hcount
        simp [occurrences_cons]
        omega
    · cases opened with
      | nil =>
        rw [loopFaultIn?_loopEnd_nil] at h
        obtain rfl : m = l := by simpa using h
        exact ⟨[], p, rfl, staysOpen_nil 0, rfl⟩
      | cons b outer =>
        rw [loopFaultIn?_loopEnd_cons] at h
        obtain ⟨before, after, rfl, hopen, hcount⟩ := ih h
        refine ⟨⟨.loopEnd, m⟩ :: before, after, rfl, ?_, ?_⟩
        · exact (staysOpen_loopEnd_cons_iff _ _ _).2 hopen
        · simp [occurrences_cons]
          omega
    · rw [loopFaultIn?_cons_of_not_bracket ho] at h
      obtain ⟨before, after, rfl, hopen, hcount⟩ := ih h
      refine ⟨⟨o, m⟩ :: before, after, rfl, ?_, ?_⟩
      · exact (staysOpen_cons_iff_of_not_bracket ho _ _ _).2 hopen
      · simpa [occurrences_cons, Op.ne_loopBegin_of_not_bracket ho,
          Op.ne_loopEnd_of_not_bracket ho] using hcount

/-- Behind an unclosed bracket all brackets are balanced. It is one of the
program or, if that closes a few of the loops at `opened` and is balanced
otherwise, the first of them that is left. -/
theorem eq_append_of_unclosedIn {opened : List Location} {p : Program} {l : Location}
    (h : loopFaultIn? opened p = some ⟨.unclosed, l⟩) :
    (∃ n, Closes n p.brackets ∧ opened[n]? = some l) ∨
      ∃ before after : Program, p = before ++ ⟨.loopBegin, l⟩ :: after ∧
        Balanced after.brackets := by
  induction p generalizing opened with
  | nil =>
    cases opened with
    | nil => simp at h
    | cons b outer =>
      obtain rfl : b = l := by simpa using h
      exact .inl ⟨0, .nil, rfl⟩
  | cons i p ih =>
    rcases i with ⟨o, m⟩
    rcases o.bracket_cases with rfl | rfl | ho
    · rw [loopFaultIn?_loopBegin] at h
      rcases ih h with ⟨n, hn, hl⟩ | ⟨before, after, rfl, hafter⟩
      · cases n with
        | zero =>
          obtain rfl : m = l := by simpa using hl
          exact .inr ⟨[], p, rfl, hn⟩
        | succ n =>
          refine .inl ⟨n, ?_, by simpa using hl⟩
          rw [brackets_loopBegin_cons, closes_loopBegin_cons_iff]
          exact hn
      · exact .inr ⟨⟨.loopBegin, m⟩ :: before, after, rfl, hafter⟩
    · cases opened with
      | nil => simp [loopFaultIn?_loopEnd_nil] at h
      | cons b outer =>
        rw [loopFaultIn?_loopEnd_cons] at h
        rcases ih h with ⟨n, hn, hl⟩ | ⟨before, after, rfl, hafter⟩
        · refine .inl ⟨n + 1, ?_, by simpa using hl⟩
          rw [brackets_loopEnd_cons, closes_loopEnd_cons_iff]
          exact hn
        · exact .inr ⟨⟨.loopEnd, m⟩ :: before, after, rfl, hafter⟩
    · rw [loopFaultIn?_cons_of_not_bracket ho] at h
      rw [brackets_cons_of_not_bracket ho]
      rcases ih h with hopened | ⟨before, after, rfl, hafter⟩
      · exact .inl hopened
      · exact .inr ⟨⟨o, m⟩ :: before, after, rfl, hafter⟩

theorem eq_append_of_unclosed {p : Program} {l : Location}
    (h : p.loopFault? = some ⟨.unclosed, l⟩) :
    ∃ before after : Program, p = before ++ ⟨.loopBegin, l⟩ :: after ∧
      Balanced after.brackets := by
  rcases eq_append_of_unclosedIn h with ⟨n, -, hl⟩ | hp
  · simp at hl
  · exact hp

theorem occurrences_lt_of_unclosed {p : Program} {l : Location}
    (h : p.loopFault? = some ⟨.unclosed, l⟩) :
    p.occurrences .loopEnd < p.occurrences .loopBegin := by
  have hopen := staysOpen_of_unclosed h
  obtain ⟨before, after, rfl, hafter⟩ := eq_append_of_unclosed h
  have hbefore := hopen before (List.prefix_append _ _)
  have hcount := occurrences_eq_of_balanced hafter
  simp [occurrences_cons]
  omega

/-- The verdict by counts alone, if a program is accepted. -/
theorem loopFault?_eq_none_iff_occurrences (p : Program) :
    p.loopFault? = none ↔
      StaysOpen 0 p ∧ p.occurrences .loopBegin = p.occurrences .loopEnd := by
  constructor
  · intro h
    exact ⟨staysOpen_of_loopFault?_eq_none h,
      occurrences_eq_of_balanced ((loopFault?_eq_none_iff p).1 h)⟩
  · rintro ⟨hopen, hcount⟩
    rcases hfault : p.loopFault? with - | ⟨kind, l⟩
    · rfl
    · cases kind with
      | unmatched => exact absurd hfault ((staysOpen_iff p).1 hopen l)
      | unclosed => exact absurd hcount (occurrences_lt_of_unclosed hfault).ne'

theorem exists_unclosed_iff (p : Program) :
    (∃ l, p.loopFault? = some ⟨.unclosed, l⟩) ↔
      StaysOpen 0 p ∧ p.occurrences .loopEnd < p.occurrences .loopBegin := by
  constructor
  · rintro ⟨l, hl⟩
    exact ⟨staysOpen_of_unclosed hl, occurrences_lt_of_unclosed hl⟩
  · rintro ⟨hopen, hcount⟩
    rcases hfault : p.loopFault? with - | ⟨kind, l⟩
    · exact absurd ((loopFault?_eq_none_iff_occurrences p).1 hfault).2 hcount.ne'
    · cases kind with
      | unmatched => exact absurd hfault ((staysOpen_iff p).1 hopen l)
      | unclosed => exact ⟨l, rfl⟩

/-- A `loopBegin` in front of a balanced rest is closed by nothing, so what it
stands in is not balanced. -/
theorem not_balanced_append_loopBegin {p q : Program} (l : Location)
    (hq : Balanced q.brackets) : ¬ Balanced (p ++ ⟨.loopBegin, l⟩ :: q).brackets := by
  intro h
  have hopen := staysOpen_of_loopFault?_eq_none ((loopFault?_eq_none_iff _).2 h)
  have hp := hopen p (List.prefix_append _ _)
  have hcount := occurrences_eq_of_balanced h
  have hrest := occurrences_eq_of_balanced hq
  simp [occurrences_cons] at hcount
  omega

end Program

namespace Listing

@[simp] theorem program_nil : program [] = [] := rfl

@[simp] theorem program_append (es fs : Listing) :
    program (es ++ fs) = es.program ++ fs.program := by
  simp [program]

@[simp] theorem program_known_cons (i : Instruction) (es : Listing) :
    program (.known i :: es) = i :: es.program := rfl

/-- A part of the program is the program of a part. -/
theorem exists_take_of_prefix {es : Listing} {q : Program} (h : q <+: es.program) :
    ∃ n, program (es.take n) = q := by
  rcases h with ⟨r, hr⟩
  obtain ⟨before, after, rfl, hbefore, -⟩ := List.filterMap_eq_append_iff.1 hr.symm
  refine ⟨before.length, ?_⟩
  rw [List.take_left]
  exact hbefore

/-- Each instruction of the program is an entry of the listing. -/
theorem eq_append_of_program_eq {es : Listing} {p q : Program} {i : Instruction}
    (h : es.program = p ++ i :: q) :
    ∃ before after : Listing, es = before ++ .known i :: after ∧
      before.program = p ∧ after.program = q := by
  rcases List.filterMap_eq_append_iff.1 h with ⟨before, rest, rfl, hbefore, hrest⟩
  rcases List.filterMap_eq_cons_iff.1 hrest with ⟨skipped, e, after, rfl, hskipped, he, hafter⟩
  cases e with
  | foreign symbol l => cases he
  | known j =>
    obtain rfl : j = i := Option.some.inj he
    have hnil : program skipped = [] := List.filterMap_eq_nil_iff.2 hskipped
    refine ⟨before ++ skipped, after, by simp, ?_, hafter⟩
    rw [program_append, hnil, List.append_nil]
    exact hbefore

def OverclosedAt (es : Listing) (n : Nat) : Prop := (program (es.take n)).Overclosed

instance (es : Listing) (n : Nat) : Decidable (es.OverclosedAt n) :=
  inferInstanceAs (Decidable (Program.Overclosed _))

/-- The entry with `n` entries before it is a `loopBegin`, and the brackets
behind it are balanced. -/
def UnclosedAt (es : Listing) (n : Nat) : Prop :=
  ∃ l, es[n]? = some (.known ⟨.loopBegin, l⟩) ∧ Balanced (program (es.drop (n + 1))).brackets

theorem staysOpen_program_iff (es : Listing) :
    es.program.StaysOpen 0 ↔ ∀ n, ¬ es.OverclosedAt n := by
  constructor
  · intro h n hn
    have hq : program (es.take n) <+: es.program := (List.take_prefix n es).filterMap _
    exact absurd hn (Nat.not_lt.2 (h _ hq))
  · intro h q hq
    obtain ⟨n, rfl⟩ := exists_take_of_prefix hq
    exact Nat.not_lt.1 (h n)

/-- An unmatched bracket ends the shortest part that closes too many loops. -/
theorem isLeast_of_unmatched {es : Listing} {l : Location}
    (h : es.program.loopFault? = some ⟨.unmatched, l⟩) :
    ∃ n, IsLeast {n | es.OverclosedAt n} n ∧
      (es.take n).getLast? = some (.known ⟨.loopEnd, l⟩) := by
  obtain ⟨p, q, hpq, hopen, hcount⟩ := Program.eq_append_of_unmatchedIn h
  obtain ⟨before, after, rfl, rfl, rfl⟩ := eq_append_of_program_eq hpq
  have htake : (before ++ .known ⟨.loopEnd, l⟩ :: after).take (before.length + 1) =
      before ++ [.known ⟨.loopEnd, l⟩] := by
    rw [List.take_length_add_append]
    rfl
  have hover : OverclosedAt (before ++ .known ⟨.loopEnd, l⟩ :: after) (before.length + 1) := by
    rw [OverclosedAt, htake]
    simp [Program.Overclosed, Program.occurrences_cons, hcount]
  refine ⟨before.length + 1, ⟨hover, ?_⟩, by rw [htake, List.getLast?_concat]⟩
  intro m (hm : OverclosedAt _ m)
  by_contra hlt
  have hshort : (before ++ .known ⟨.loopEnd, l⟩ :: after).take m = before.take m :=
    List.take_append_of_le_length (by omega)
  rw [OverclosedAt, hshort] at hm
  exact (staysOpen_program_iff before).1 hopen m hm

/-- An unclosed bracket is the last one with a balanced rest behind it. -/
theorem isGreatest_of_unclosed {es : Listing} {l : Location}
    (h : es.program.loopFault? = some ⟨.unclosed, l⟩) :
    ∃ n, IsGreatest {n | es.UnclosedAt n} n ∧ es[n]? = some (.known ⟨.loopBegin, l⟩) := by
  obtain ⟨p, q, hpq, hbalanced⟩ := Program.eq_append_of_unclosed h
  obtain ⟨before, after, rfl, rfl, rfl⟩ := eq_append_of_program_eq hpq
  have hdrop : ∀ k, (before ++ .known ⟨.loopBegin, l⟩ :: after).drop (before.length + 1 + k) =
      after.drop k := by
    intro k
    rw [Nat.add_assoc, List.drop_length_add_append, Nat.add_comm, List.drop_succ_cons]
  have hget : (before ++ .known ⟨.loopBegin, l⟩ :: after)[before.length]? =
      some (.known ⟨.loopBegin, l⟩) := by simp
  refine ⟨before.length, ⟨⟨l, hget, ?_⟩, ?_⟩, hget⟩
  · rw [hdrop 0]
    exact hbalanced
  · rintro n ⟨m, hn, hrest⟩
    by_contra hlt
    -- The bracket at `n` lies behind the one at fault, inside of the balanced rest.
    obtain ⟨k, rfl⟩ : ∃ k, n = before.length + 1 + k := ⟨n - (before.length + 1), by omega⟩
    rw [← List.getElem?_drop, ← Nat.add_zero (before.length + 1), hdrop 0, List.drop_zero] at hn
    rw [Nat.add_assoc, hdrop (k + 1)] at hrest
    rw [eq_take_append_cons_drop hn, program_append, program_known_cons] at hbalanced
    exact Program.not_balanced_append_loopBegin m hrest hbalanced

end Listing

/-- The loop check decides whether brackets are balanced, and blames the bracket
that makes the difference: the one that ends the shortest part with more ends
than beginnings or, where there is no such part, the last beginning with a
balanced rest behind it. -/
theorem loopCheck_decides_balanced (es : Listing) (source : Text) :
    let verdict := es.program.loopFault?.map (·.diagnostic source)
    (verdict = none ↔ Balanced es.program.brackets) ∧
    ((∃ n, es.OverclosedAt n) →
      ∃ n l, IsLeast {n | es.OverclosedAt n} n ∧
        (es.take n).getLast? = some (.known ⟨.loopEnd, l⟩) ∧
        verdict = some ⟨"Unmatched ']'".toList, source, l⟩) ∧
    (¬ Balanced es.program.brackets → (¬ ∃ n, es.OverclosedAt n) →
      ∃ n l, IsGreatest {n | es.UnclosedAt n} n ∧
        es[n]? = some (.known ⟨.loopBegin, l⟩) ∧
        verdict = some ⟨"Unclosed '['".toList, source, l⟩) := by
  refine ⟨?_, ?_, ?_⟩
  · rw [Option.map_eq_none_iff]
    exact Program.loopFault?_eq_none_iff _
  · rintro ⟨m, hm⟩
    have hopen : ¬ es.program.StaysOpen 0 := by
      rw [Listing.staysOpen_program_iff]
      exact fun h => h m hm
    obtain ⟨l, hl⟩ := (Program.exists_unmatched_iff _).2 hopen
    obtain ⟨n, hn, hlast⟩ := Listing.isLeast_of_unmatched hl
    exact ⟨n, l, hn, hlast, by rw [hl]; rfl⟩
  · intro hbalanced hnone
    have hopen : es.program.StaysOpen 0 := by
      rw [Listing.staysOpen_program_iff]
      exact not_exists.1 hnone
    cases hfault : es.program.loopFault? with
    | none => exact absurd ((Program.loopFault?_eq_none_iff _).1 hfault) hbalanced
    | some fault =>
      rcases fault with ⟨kind, l⟩
      cases kind with
      | unmatched => exact absurd hopen ((Program.exists_unmatched_iff _).1 ⟨l, hfault⟩)
      | unclosed =>
        obtain ⟨n, hn, hget⟩ := Listing.isGreatest_of_unclosed hfault
        exact ⟨n, l, hn, hget, rfl⟩

/-- A word that names no operation is passed over, and the second end is one too
many whatever follows it. Without it the first of two beginnings is left open. -/
theorem loopCheck_decides_balanced_surplus :
    let surplus : Listing := [.known ⟨.loopBegin, ⟨1, 1⟩⟩, .foreign "x".toList ⟨1, 2⟩,
      .known ⟨.loopEnd, ⟨1, 3⟩⟩, .known ⟨.loopEnd, ⟨-4, 7⟩⟩, .known ⟨.loopBegin, ⟨2, 1⟩⟩]
    let opened : Listing := [.known ⟨.loopBegin, ⟨3, 1⟩⟩, .foreign "x".toList ⟨1, 2⟩,
      .known ⟨.loopBegin, ⟨1, 3⟩⟩, .known ⟨.loopEnd, ⟨1, 4⟩⟩]
    (surplus.OverclosedAt 4 ∧
      ∃ n l, IsLeast {n | surplus.OverclosedAt n} n ∧
        (surplus.take n).getLast? = some (.known ⟨.loopEnd, l⟩) ∧
        surplus.program.loopFault?.map (·.diagnostic []) =
          some ⟨"Unmatched ']'".toList, [], l⟩) ∧
    (¬ Balanced opened.program.brackets ∧ (¬ ∃ n, opened.OverclosedAt n) ∧
      ∃ n l, IsGreatest {n | opened.UnclosedAt n} n ∧
        opened[n]? = some (.known ⟨.loopBegin, l⟩) ∧
        opened.program.loopFault?.map (·.diagnostic []) =
          some ⟨"Unclosed '['".toList, [], l⟩) := by
  intro surplus opened
  refine ⟨⟨by decide, (loopCheck_decides_balanced surplus []).2.1 ⟨4, by decide⟩⟩, ?_⟩
  have hfault : opened.program.loopFault? = some ⟨.unclosed, ⟨3, 1⟩⟩ := by decide
  have hbalanced : ¬ Balanced opened.program.brackets := by
    rw [← Program.loopFault?_eq_none_iff, hfault]
    simp
  have hopen : ¬ ∃ n, opened.OverclosedAt n := by
    rw [not_exists, ← Listing.staysOpen_program_iff, Program.staysOpen_iff, hfault]
    simp
  exact ⟨hbalanced, hopen, (loopCheck_decides_balanced opened []).2.2 hbalanced hopen⟩

end BrainfuckC
