import BrainfuckC.Proofs.Excerpt.Row
import BrainfuckC.Proofs.SourceFile.Stored

/-!
# Line ends of source files

A file is compiled as the same text whatever its lines end with. A text in memory
keeps its carriage returns, and these are no symbols: with one in front of each
line feed the same is compiled, or the same fault is found at the same location.
Only the excerpt shows them, at the ends of the lines that it quotes
(`compile_withLineEnds`).
-/

namespace BrainfuckC

open Text

/-! ## Excerpts with carriage returns -/

theorem forall₂_zipIdx {α β : Type*} {r : α → β → Prop} {as : List α} {bs : List β}
    (h : List.Forall₂ r as bs) (k : Nat) :
    List.Forall₂ (fun a b => r a.1 b.1 ∧ a.2 = b.2) (as.zipIdx k) (bs.zipIdx k) := by
  induction h generalizing k with
  | nil => exact .nil
  | cons hfirst _ ih => exact .cons ⟨hfirst, rfl⟩ (ih (k + 1))

namespace Excerpt

variable {l l' : Text} {lines lines' : List Text} {column : Option Int}

theorem Row.render_quoted_eqUpToReturn (h : l.EqUpToReturn l') (marked : Bool) (number : Nat) :
    (quoted marked number l).render.EqUpToReturn (quoted marked number l').render :=
  h.append_left ((if marked then '>' else ' ') :: ' ' ::
    (List.leftpad numberWidth ' ' (Decimal.ofNat number) ++ bar))

theorem forall₂_render_rowsOfLine (h : l.EqUpToReturn l') (center radius : Int) (number : Nat) :
    List.Forall₂ EqUpToReturn ((rowsOfLine center radius column number l).map Row.render)
      ((rowsOfLine center radius column number l').map Row.render) := by
  rw [rowsOfLine, rowsOfLine]
  split
  · apply List.Forall₂.cons
    · exact Row.render_quoted_eqUpToReturn h _ number
    · exact List.forall₂_same.2 fun row _ => .refl row
  · exact .nil

theorem forall₂_render_rows (h : List.Forall₂ EqUpToReturn lines lines') (line radius : Int) :
    List.Forall₂ EqUpToReturn ((rows lines line column radius).map Row.render)
      ((rows lines' line column radius).map Row.render) := by
  rw [rows, rows, h.length_eq, List.map_flatMap, List.map_flatMap]
  apply List.rel_flatMap (forall₂_zipIdx h 1)
  rintro ⟨text, number⟩ ⟨text', number'⟩ ⟨htext, rfl⟩
  exact forall₂_render_rowsOfLine htext _ radius number

end Excerpt

namespace Diagnostic

variable {summary source source' : Text} {location : Location}

theorem forall₂_lines_context (h : List.Forall₂ EqUpToReturn source.lines source'.lines) :
    List.Forall₂ EqUpToReturn (Diagnostic.mk summary source location).context.lines
      (Diagnostic.mk summary source' location).context.lines := by
  rw [lines_context, lines_context]
  exact Excerpt.forall₂_render_rows h location.line radius

/-- What a line begins with is not changed by a carriage return at its end. -/
theorem head?_eq_marker_iff {l l' : Text} (h : l.EqUpToReturn l') :
    l.head? = some '>' ↔ l'.head? = some '>' := by
  rcases h with rfl | rfl
  · exact Iff.rfl
  · cases l <;> simp

theorem exists_markedRows_eqUpToReturn
    (h : List.Forall₂ EqUpToReturn source.lines source'.lines) :
    ∃ row row', (Diagnostic.mk summary source location).markedRows = [row] ∧
      (Diagnostic.mk summary source' location).markedRows = [row'] ∧ row.EqUpToReturn row' := by
  obtain ⟨_, _, -, hrow⟩ := exists_markedRows ⟨summary, source, location⟩
  obtain ⟨_, _, -, hrow'⟩ := exists_markedRows ⟨summary, source', location⟩
  refine ⟨_, _, hrow, hrow', ?_⟩
  have hrows : List.Forall₂ EqUpToReturn (Diagnostic.mk summary source location).markedRows
      (Diagnostic.mk summary source' location).markedRows := by
    apply List.rel_filter _ (forall₂_lines_context h)
    intro l l' hl
    simpa only [decide_eq_true_iff] using head?_eq_marker_iff hl
  rw [hrow, hrow'] at hrows
  exact (List.forall₂_cons.1 hrows).1

end Diagnostic

/-! ## Compilations -/

theorem Compilation.ofText_withLineEnds_both (o : Options) (s : Text) :
    ofText o (s.withLineEnds .both) = ofText o s := by
  rw [ofText, ofTextWith, Program.ofText, Program.scanFrom_withLineEnds_both]
  rfl

namespace SourceFile

open TextFile

/-- It does not matter what the lines of a source end with. -/
theorem compile_withLineEnds {s : Text} (hs : '\r' ∉ s) :
    (∀ (lineEnd : LineEnd) (t : FileTree) (here : Place) (p : Path) (label : Text),
      Stored t here p label .utf8 (Utf8.encode (s.withLineEnds lineEnd)) →
        ∀ o, compile t here p label o = compileText o s) ∧
      ∀ o, Compilation.ofText o (s.withLineEnds .both) = Compilation.ofText o s ∧
        ∀ fault : LoopFault,
          List.Forall₂ EqUpToReturn (fault.diagnostic s).context.lines
            (fault.diagnostic (s.withLineEnds .both)).context.lines ∧
          ∃ row row', (fault.diagnostic s).markedRows = [row] ∧
            (fault.diagnostic (s.withLineEnds .both)).markedRows = [row'] ∧
            row.EqUpToReturn row' := by
  constructor
  · intro lineEnd t here p label hstored o
    rw [compile_of_encode? hstored rfl, ← unifyNewlines_eq_withLineFeeds,
      unifyNewlines_withLineEnds hs]
  · intro o
    refine ⟨Compilation.ofText_withLineEnds_both o s, ?_⟩
    intro fault
    have hlines := forall₂_lines_withLineEnds_both s
    exact ⟨Diagnostic.forall₂_lines_context hlines,
      Diagnostic.exists_markedRows_eqUpToReturn hlines⟩

/-- Two loops are unclosed, and the second one is shown. -/
theorem compile_withLineEnds_unclosed :
    let s : Text := ['[', '\n', ' ', '[', '\n']
    let shown : Text := ['[', '\r', '\n', ' ', '[', '\r', '\n']
    let tree (content : Bytes) : FileTree := ⟨[([['a']], .file content)]⟩
    let strict : Options := ⟨true, false⟩
    let fault : LoopFault := ⟨.unclosed, ⟨2, 2⟩⟩
    compile (tree [0x5b, 0x0d, 0x20, 0x5b, 0x0d]) [] (.ofText ['a']) "utf-8".toList strict =
        .error (.refused fault s) ∧
      Compilation.ofText strict shown = .error fault ∧
      ∃ row row', (fault.diagnostic s).markedRows = [row] ∧
        (fault.diagnostic shown).markedRows = [row'] ∧ row.EqUpToReturn row' := by
  intro s shown tree strict fault
  have hs : '\r' ∉ s := by decide
  have hfile : Stored (tree [0x5b, 0x0d, 0x20, 0x5b, 0x0d]) [] (.ofText ['a']) "utf-8".toList
      .utf8 (Utf8.encode (withLineEnds .carriageReturn s)) := ⟨rfl, rfl, rfl⟩
  have hfault : Compilation.ofText strict s = .error fault := rfl
  obtain ⟨hshown, hexcerpt⟩ := (compile_withLineEnds hs).2 strict
  refine ⟨?_, hshown.trans hfault, (hexcerpt fault).2⟩
  rw [(compile_withLineEnds hs).1 .carriageReturn _ _ _ _ hfile strict]
  rfl

end SourceFile

end BrainfuckC
