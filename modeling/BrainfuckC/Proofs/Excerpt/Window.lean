import BrainfuckC.Proofs.Excerpt.Caret
import Mathlib.Data.List.Intervals

/-!
# The window of an excerpt

The lines that an excerpt quotes are those in a window of line numbers, without a gap
and in order, and the caret row comes directly below the one in focus
(`Excerpt.rows_eq_flatMap_Ico`). The window is cut where the source ends, so next to
the first and the last line it is smaller.

The fault of a source lies on one of its lines, as locations and excerpts count lines
alike. So the diagnostic quotes that line and up to two lines on either side of it,
each of them as it stands in the source (`diagnostic_quotes_of_refused`).
-/

namespace BrainfuckC

/-- The elements of a list with their numbers, by number. -/
theorem zipIdx_one_eq_map_Ico {α : Type*} (l : List α) (a : α) :
    l.zipIdx 1 = (List.Ico 1 (l.length + 1)).map fun i => (l.getD (i - 1) a, i) := by
  apply List.ext_getElem
  · rw [List.length_zipIdx, List.length_map, List.Ico.length, Nat.add_sub_cancel]
  · intro n h₁ h₂
    have hn : n < l.length := by rwa [List.length_zipIdx] at h₁
    simp [List.Ico, hn]

/-- Where nothing comes from the numbers before `lo` and from `hi` on, only those in
between matter. -/
theorem flatMap_Ico_eq_of_outside {α : Type*} {f : Nat → List α} {a lo hi b : Nat}
    (halo : a ≤ lo) (hlohi : lo ≤ hi) (hhib : hi ≤ b)
    (h : ∀ i, a ≤ i → i < b → ¬ (lo ≤ i ∧ i < hi) → f i = []) :
    (List.Ico a b).flatMap f = (List.Ico lo hi).flatMap f := by
  have hbefore : (List.Ico a lo).flatMap f = [] := by
    rw [List.flatMap_eq_nil_iff]
    intro i hi
    rw [List.Ico.mem] at hi
    exact h i hi.1 (by omega) (by omega)
  have hafter : (List.Ico hi b).flatMap f = [] := by
    rw [List.flatMap_eq_nil_iff]
    intro i hi
    rw [List.Ico.mem] at hi
    exact h i (by omega) hi.2 (by omega)
  rw [← List.Ico.append_consecutive (halo.trans hlohi) hhib,
    ← List.Ico.append_consecutive halo hlohi, List.flatMap_append, List.flatMap_append,
    hbefore, hafter, List.nil_append, List.append_nil]

namespace Excerpt

/-- An excerpt quotes the lines from the first to the last one in its window. -/
theorem rows_eq_flatMap_Ico {lines : List Text} {line radius : Int} {first last : Nat}
    (hfirst : 1 ≤ first) (hle : first ≤ last + 1) (hlast : last ≤ lines.length)
    (hwindow : ∀ i : Nat, 1 ≤ i → i ≤ lines.length →
      (focus lines.length line - radius ≤ i ∧ i ≤ focus lines.length line + radius ↔
        first ≤ i ∧ i ≤ last)) (column : Option Int) :
    rows lines line column radius = (List.Ico first (last + 1)).flatMap fun (i : Nat) =>
      .quoted (i = focus lines.length line) i (lines.getD (i - 1) []) ::
        if i = focus lines.length line then caretRows column else [] := by
  rw [rows, zipIdx_one_eq_map_Ico lines [], List.flatMap_map,
    flatMap_Ico_eq_of_outside hfirst hle (Nat.succ_le_succ hlast)]
  · apply List.flatMap_congr
    intro i hi
    rw [List.Ico.mem] at hi
    exact if_pos ((hwindow i (by omega) (by omega)).2 (by omega))
  · intro i hone hlt hout
    have hnear := hwindow i hone (Nat.lt_succ_iff.1 hlt)
    exact if_neg (mt hnear.1 fun hin => hout ⟨hin.1, Nat.lt_succ_of_le hin.2⟩)

end Excerpt

namespace Diagnostic

/-- The rows of a diagnostic that points at a character of its source. -/
theorem lines_context_eq_flatMap {d : Diagnostic} {L C : Nat} (hlocation : d.location = ⟨L, C⟩)
    (hL : 1 ≤ L) (hn : L ≤ d.source.lines.length) (hC : 1 ≤ C) :
    d.context.lines =
      (List.Ico (max 1 (L - 2)) (min d.source.lines.length (L + 2) + 1)).flatMap fun i =>
        ((if i = L then '>' else ' ') :: ' ' :: (List.leftpad 4 ' ' (Decimal.ofNat i) ++
          " | ".toList ++ d.source.lines.getD (i - 1) [])) ::
        if i = L then ["       | ".toList ++ List.replicate (C - 1) ' ' ++ ['^']] else [] := by
  have hfocus : Excerpt.focus d.source.lines.length L = L :=
    Excerpt.focus_of_mem (by omega) (by omega)
  have hcaret : Excerpt.caretRows (some (C : Int)) = [.caret C] := if_pos (by omega)
  have hquoted (marked : Bool) (i : Nat) (line : Text) :
      (Excerpt.Row.quoted marked i line).render = (if marked then '>' else ' ') :: ' ' ::
        (List.leftpad 4 ' ' (Decimal.ofNat i) ++ " | ".toList ++ line) := rfl
  have hcaretRow : (Excerpt.Row.caret C).render =
      "       | ".toList ++ List.replicate (C - 1) ' ' ++ ['^'] := by
    rw [Excerpt.Row.render, show ((C : Int) - 1).toNat = C - 1 by omega]
    rfl
  have hwindow (i : Nat) (_ : 1 ≤ i) (_ : i ≤ d.source.lines.length) :
      (Excerpt.focus d.source.lines.length L - radius ≤ i ∧
          i ≤ Excerpt.focus d.source.lines.length L + radius ↔
        max 1 (L - 2) ≤ i ∧ i ≤ min d.source.lines.length (L + 2)) := by
    rw [hfocus, radius]
    omega
  rw [lines_context, rows, hlocation,
    Excerpt.rows_eq_flatMap_Ico (by omega) (by omega) (by omega) hwindow, List.map_flatMap,
    hfocus, hcaret]
  apply List.flatMap_congr
  intro i hi
  simp only [List.map_cons, hquoted, Int.natCast_inj]
  by_cases hiL : i = L
  · rw [if_pos hiL, if_pos hiL, List.map_singleton, hcaretRow, decide_eq_true hiL, if_pos rfl,
      if_pos hiL]
  · rw [if_neg hiL, if_neg hiL, List.map_nil, decide_eq_false hiL, if_neg Bool.false_ne_true,
      if_neg hiL]

end Diagnostic

/-- What is advised against a fault. -/
def LoopFault.Kind.advice : LoopFault.Kind → Text
  | unmatched => ("Every \"]\" must close a \"[\" opened before it. " ++
      "Remove the extra \"]\" or add a matching \"[\".").toList
  | unclosed => "Add a matching \"]\" after the loop body.".toList

/-- Each summary holds the phrase that its advice is found by, and not the other
one. -/
theorem Diagnostic.hint?_summary (kind : LoopFault.Kind) :
    hint? kind.summary = some kind.advice := by
  cases kind <;> rfl

theorem Diagnostic.message_eq {d : Diagnostic} {hint : Text} (h : hint? d.summary = some hint) :
    d.message = "LoopError: ".toList ++ d.summary ++ " (line ".toList ++
      Decimal.ofInt d.location.line ++ ", column ".toList ++ Decimal.ofInt d.location.column ++
      ")\n".toList ++ d.context ++ "\nHint: ".toList ++ hint := by
  have hheadline : d.headline = "LoopError: ".toList ++ d.summary ++ " (line ".toList ++
      Decimal.ofInt d.location.line ++ ", column ".toList ++ Decimal.ofInt d.location.column ++
      [')'] := rfl
  have hhint : hintLine d.summary = "\nHint: ".toList ++ hint := by rw [hintLine, h]
  have hclose (s t : Text) : s ++ [')'] ++ '\n' :: t = s ++ ")\n".toList ++ t := by simp
  rw [message, hheadline, hhint, ← List.append_assoc _ _ hint, hclose]

/-- A source that is refused is quoted around the line of the bracket at fault. -/
theorem diagnostic_quotes_of_refused {s : Text} {fault : LoopFault}
    (h : (Program.ofText s).loopFault? = some fault) :
    let d := fault.diagnostic s
    let n := s.lines.length
    let L := fault.location.line.toNat
    let C := fault.location.column.toNat
    fault.location = ⟨L, C⟩ ∧ 1 ≤ L ∧ L ≤ n ∧ 1 ≤ C ∧
    d.context.lines =
      (List.Ico (max 1 (L - 2)) (min n (L + 2) + 1)).flatMap (fun i =>
        ((if i = L then '>' else ' ') :: ' ' :: (List.leftpad 4 ' ' (Decimal.ofNat i) ++
          " | ".toList ++ s.lines.getD (i - 1) [])) ::
        if i = L then ["       | ".toList ++ List.replicate (C - 1) ' ' ++ ['^']] else []) ∧
    ∃ bracket kind hint,
      (fault.kind = .unmatched ∧ bracket = ']' ∧ kind = "Unmatched ']'".toList ∧
          hint = ("Every \"]\" must close a \"[\" opened before it. " ++
            "Remove the extra \"]\" or add a matching \"[\".").toList ∨
        fault.kind = .unclosed ∧ bracket = '[' ∧ kind = "Unclosed '['".toList ∧
          hint = "Add a matching \"]\" after the loop body.".toList) ∧
      (∃ text, s.lines[L - 1]? = some text ∧ text[C - 1]? = some bracket) ∧
      d.message = "LoopError: ".toList ++ kind ++ " (line ".toList ++ Decimal.ofNat L ++
        ", column ".toList ++ Decimal.ofNat C ++ ")\n".toList ++ d.context ++
        "\nHint: ".toList ++ hint := by
  intro d n L C
  obtain ⟨⟨hline, hcolumn⟩, text, htext, hbracket⟩ :=
    Text.charAt?_eq_some_iff.1 (Program.charAt?_of_loopFault? h)
  have hL : fault.location.line = L := (Int.toNat_of_nonneg (by omega)).symm
  have hC : fault.location.column = C := (Int.toNat_of_nonneg (by omega)).symm
  have hlocation : fault.location = ⟨L, C⟩ := by rw [← hL, ← hC]
  have hlineIndex : (fault.location.line - 1).toNat = L - 1 := by omega
  have hcolumnIndex : (fault.location.column - 1).toNat = C - 1 := by omega
  rw [hlineIndex] at htext
  rw [hcolumnIndex] at hbracket
  have hlt : L - 1 < n := (List.getElem?_eq_some_iff.1 htext).1
  have hLone : 1 ≤ L := by omega
  have hLn : L ≤ n := by omega
  have hCone : 1 ≤ C := by omega
  have hmessage := d.message_eq (Diagnostic.hint?_summary fault.kind)
  -- no location has a sign here, so its numerals are those of `L` and `C`
  have hlineText : Decimal.ofInt d.location.line = Decimal.ofNat L := congrArg Decimal.ofInt hL
  have hcolumnText : Decimal.ofInt d.location.column = Decimal.ofNat C :=
    congrArg Decimal.ofInt hC
  rw [hlineText, hcolumnText] at hmessage
  refine ⟨hlocation, hLone, hLn, hCone, d.lines_context_eq_flatMap hlocation hLone hLn hCone,
    fault.kind.op.symbol, fault.kind.summary, fault.kind.advice, ?_,
    ⟨text, htext, hbracket⟩, hmessage⟩
  cases fault.kind with
  | unmatched => exact .inl ⟨rfl, rfl, rfl, rfl⟩
  | unclosed => exact .inr ⟨rfl, rfl, rfl, rfl⟩

/-- The line at fault looks like a row of an excerpt and ends in a carriage return. The
window is cut at both ends of the source. -/
theorem diagnostic_quotes_of_refused_lookalike :
    let s : Text := "+\n>    1 | [\r\n".toList
    let fault : LoopFault := ⟨.unclosed, ⟨2, 10⟩⟩
    (Program.ofText s).loopFault? = some fault ∧
    (fault.diagnostic s).context.lines =
      ["     1 | +".toList, ">    2 | >    1 | [\r".toList,
        "       |          ^".toList, "     3 | ".toList] ∧
    (fault.diagnostic s).message = "LoopError: Unclosed '[' (line 2, column 10)\n".toList ++
      (fault.diagnostic s).context ++ "\nHint: ".toList ++
      "Add a matching \"]\" after the loop body.".toList := by
  intro s fault
  have h : (Program.ofText s).loopFault? = some fault := by rfl
  obtain ⟨-, -, -, -, hlines, bracket, kind, hint, hkind, -, hmessage⟩ :=
    diagnostic_quotes_of_refused h
  rcases hkind with ⟨hunmatched, -⟩ | ⟨-, -, rfl, rfl⟩
  · cases hunmatched
  · have hheadline : "LoopError: ".toList ++ "Unclosed '['".toList ++ " (line ".toList ++
        Decimal.ofNat fault.location.line.toNat ++ ", column ".toList ++
        Decimal.ofNat fault.location.column.toNat ++ ")\n".toList =
          "LoopError: Unclosed '[' (line 2, column 10)\n".toList := by decide
    rw [hheadline] at hmessage
    exact ⟨h, hlines.trans (by decide), hmessage⟩

end BrainfuckC
