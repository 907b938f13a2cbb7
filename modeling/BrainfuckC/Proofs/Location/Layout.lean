import BrainfuckC.Proofs.Location.Line
import BrainfuckC.Proofs.Location.Order

/-!
# Laying out a program

A program can be written down so that every symbol stands at its location: line
feeds and blanks lead from one symbol to the next. This works exactly if the
locations ascend and none of them lies above the first line or left of the first
column, and such a program is read back from its layout
(`Ascending.ofText_layout`). As every source ascends, these are all the programs
that are read from a source.

The layout is generalised over the location from which it is written, as the
padding in front of a symbol depends on where the symbol before it stands.
-/

namespace BrainfuckC

namespace Location

/-- What may still be reached from a location by going right and down. -/
def Reaches (l m : Location) : Prop :=
  l.line < m.line ∨ l.line = m.line ∧ l.column ≤ m.column

/-- The line feeds and blanks between two locations. A line feed leads to the
first column, wherever it stands. -/
def padding (l m : Location) : Text :=
  if l.line < m.line then
    List.replicate (m.line - l.line).toNat '\n' ++ List.replicate (m.column - 1).toNat ' '
  else List.replicate (m.column - l.column).toNat ' '

theorem eq_of_mem_padding {l m : Location} {c : Char} (h : c ∈ l.padding m) :
    c = '\n' ∨ c = ' ' := by
  rw [padding] at h
  split at h
  · rw [List.mem_append] at h
    exact h.imp List.eq_of_mem_replicate List.eq_of_mem_replicate
  · exact .inr (List.eq_of_mem_replicate h)

theorem advance_replicate_blank (l : Location) (n : Nat) :
    l.advance (List.replicate n ' ') = ⟨l.line, l.column + n⟩ := by
  induction n generalizing l with
  | zero => simp
  | succ n ih =>
    rw [List.replicate_succ, advance_cons, next_of_ne (by decide), ih]
    simp only [mk.injEq, true_and]
    omega

theorem advance_replicate_newline (l : Location) (n : Nat) :
    l.advance (List.replicate (n + 1) '\n') = ⟨l.line + n + 1, 1⟩ := by
  induction n generalizing l with
  | zero => simp
  | succ n ih =>
    rw [List.replicate_succ, advance_cons, next_newline, ih]
    simp only [mk.injEq, and_true]
    omega

theorem advance_padding {l m : Location} (h : l.Reaches m) (hm : 1 ≤ m.column) :
    l.advance (l.padding m) = m := by
  rcases l with ⟨line, column⟩
  rcases m with ⟨line', column'⟩
  simp only [Reaches] at h hm
  by_cases hline : line < line'
  · obtain ⟨n, hn⟩ : ∃ n : Nat, line' - line = n + 1 := ⟨(line' - line - 1).toNat, by omega⟩
    have htoNat : (line' - line).toNat = n + 1 := by omega
    rw [padding, if_pos hline, htoNat, advance_append, advance_replicate_newline,
      advance_replicate_blank]
    simp only [mk.injEq]
    omega
  · rw [padding, if_neg hline, advance_replicate_blank]
    simp only [mk.injEq]
    omega

theorem reaches_of_start {m : Location} (h : 1 ≤ m.line ∧ 1 ≤ m.column) : start.Reaches m := by
  simp only [Reaches, start]
  omega

/-- Behind a symbol, every later location may still be reached. -/
theorem Before.reaches_next {l m : Location} (h : l.Before m) {c : Char} (hc : c ≠ '\n') :
    (l.next c).Reaches m := by
  rw [next_of_ne hc]
  simp only [Before, Reaches] at h ⊢
  omega

end Location

/-- A symbol is no line feed. -/
theorem Op.symbol_ne_newline (o : Op) : o.symbol ≠ '\n' := by
  cases o <;> decide

namespace Program

/-- The locations exist and ascend: no line and no column comes before the first
one, and each instruction stands before those that follow it. -/
structure Ascending (p : Program) : Prop where
  one_le : ∀ i ∈ p, 1 ≤ i.location.line ∧ 1 ≤ i.location.column
  pairwise : p.Pairwise fun i j => i.location.Before j.location

/-- A text that begins at `l` and has the symbols of `p` at their locations. -/
def layoutFrom (l : Location) : Program → Text
  | [] => []
  | i :: p => l.padding i.location ++ i.op.symbol :: layoutFrom (i.location.next i.op.symbol) p

/-- The symbols of a program, each of them at its location, with line feeds and
blanks in between. -/
def layout (p : Program) : Text := layoutFrom .start p

theorem eq_of_mem_layoutFrom {l : Location} {p : Program} {c : Char} (h : c ∈ layoutFrom l p) :
    c = '\n' ∨ c = ' ' ∨ ∃ i ∈ p, c = i.op.symbol := by
  induction p generalizing l with
  | nil => cases h
  | cons i p ih =>
    rw [layoutFrom, List.mem_append, List.mem_cons] at h
    rcases h with h | rfl | h
    · exact (Location.eq_of_mem_padding h).imp_right .inl
    · exact .inr (.inr ⟨i, List.mem_cons_self, rfl⟩)
    · rcases ih h with h | h | ⟨j, hj, h⟩
      · exact .inl h
      · exact .inr (.inl h)
      · exact .inr (.inr ⟨j, List.mem_cons_of_mem i hj, h⟩)

/-- A comment has no instructions. -/
theorem scanFrom_eq_nil {t : Text} (h : ∀ c ∈ t, Op.ofChar? c = none) (l : Location) :
    scanFrom l t = [] := by
  induction t generalizing l with
  | nil => rfl
  | cons c t ih =>
    rw [List.forall_mem_cons] at h
    rw [scanFrom_cons_of_none h.1, ih h.2]

theorem scanFrom_padding (l m : Location) : scanFrom l (l.padding m) = [] := by
  apply scanFrom_eq_nil
  intro c hc
  rcases Location.eq_of_mem_padding hc with rfl | rfl <;> rfl

theorem scanFrom_layoutFrom {l : Location} {p : Program} (h : p.Ascending)
    (hl : ∀ i ∈ p, l.Reaches i.location) : scanFrom l (layoutFrom l p) = p := by
  induction p generalizing l with
  | nil => rfl
  | cons i p ih =>
    obtain ⟨hone, hpairwise⟩ := h
    rw [List.forall_mem_cons] at hone hl
    rw [List.pairwise_cons] at hpairwise
    have hrest : scanFrom (i.location.next i.op.symbol)
        (layoutFrom (i.location.next i.op.symbol) p) = p := by
      apply ih ⟨hone.2, hpairwise.2⟩
      intro j hj
      exact (hpairwise.1 j hj).reaches_next i.op.symbol_ne_newline
    rw [layoutFrom, scanFrom_append, scanFrom_padding, List.nil_append,
      Location.advance_padding hl.1 hone.1.2, scanFrom_cons_of_some (Op.ofChar?_symbol _), hrest]

theorem Ascending.ofText_layout {p : Program} (h : p.Ascending) : ofText p.layout = p :=
  scanFrom_layoutFrom h fun i hi => Location.reaches_of_start (h.one_le i hi)

theorem ascending_ofText (t : Text) : (ofText t).Ascending := by
  refine ⟨?_, pairwise_before_scanFrom .start t⟩
  intro i hi
  obtain ⟨p, q, hpq⟩ := List.append_of_mem hi
  obtain ⟨before, after, -, -, hlocation⟩ := exists_eq_append_of_scanFrom_eq hpq
  rw [← hlocation]
  exact Location.one_le_advance_start before

/-- An instruction points at its own symbol. -/
theorem charAt?_of_mem_ofText {t : Text} {i : Instruction} (h : i ∈ ofText t) :
    t.charAt? i.location = some i.op.symbol := by
  obtain ⟨p, q, hpq⟩ := List.append_of_mem h
  obtain ⟨before, after, rfl, -, hlocation⟩ := exists_eq_append_of_scanFrom_eq hpq
  rw [← hlocation]
  exact Text.charAt?_advance i.op.symbol_ne_newline before after

/-- The programs that are read from a text are those whose locations ascend. Such
a program is read from its layout, which has each symbol at its location and
nothing else but line feeds and blanks. -/
theorem exists_ofText_eq_iff_ascending (p : Program) :
    ((∃ t, ofText t = p) ↔ p.Ascending) ∧
    (p.Ascending →
      ofText p.layout = p ∧
      (∀ i ∈ p, p.layout.charAt? i.location = some i.op.symbol) ∧
      ∀ c ∈ p.layout, c = '\n' ∨ c = ' ' ∨ ∃ i ∈ p, c = i.op.symbol) := by
  constructor
  · constructor
    · rintro ⟨t, rfl⟩
      exact ascending_ofText t
    · intro h
      exact ⟨p.layout, h.ofText_layout⟩
  · intro h
    have hlayout := h.ofText_layout
    refine ⟨hlayout, ?_, fun c => eq_of_mem_layoutFrom⟩
    intro i hi
    apply charAt?_of_mem_ofText
    rwa [hlayout]

/-- Two lines are skipped, and a symbol stands far to the right. -/
theorem exists_ofText_eq_iff_ascending_sparse :
    let p : Program := [⟨.loopEnd, ⟨1, 2⟩⟩, ⟨.increment, ⟨1, 3⟩⟩, ⟨.loopBegin, ⟨4, 6⟩⟩]
    p.Ascending ∧ p.layout = " ]+\n\n\n     [".toList ∧ ofText p.layout = p ∧
      p.layout.charAt? ⟨4, 6⟩ = some '[' := by
  intro p
  have h : p.Ascending := ⟨by decide, by decide⟩
  obtain ⟨hlayout, hchar, -⟩ := (exists_ofText_eq_iff_ascending p).2 h
  exact ⟨h, by decide, hlayout, hchar ⟨.loopBegin, ⟨4, 6⟩⟩ (by decide)⟩

end Program

end BrainfuckC
