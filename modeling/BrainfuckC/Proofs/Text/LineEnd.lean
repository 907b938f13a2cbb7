import BrainfuckC.Proofs.Location.Line
import BrainfuckC.Text.Newline
import Mathlib.Data.List.Forall2

/-!
# Conventions for line ends

A text whose lines end with line feeds may be written by another convention, with
its line end in the place of each line feed. Unifying the line ends takes every
convention back (`unifyNewlines_withLineEnds`).

A text that is not unified shows its carriage returns. They stand at the ends of
lines, where no symbol follows them, so with a carriage return in front of each
line feed every instruction keeps its location (`scanFrom_withLineEnds_both`), and
the lines are the same but for a carriage return at the end of some of them
(`forall₂_lines_withLineEnds_both`).
-/

namespace BrainfuckC

/-- What a line may end with. -/
inductive LineEnd where
  | lineFeed
  | carriageReturn
  | both
  deriving DecidableEq

def LineEnd.text : LineEnd → Text
  | lineFeed => ['\n']
  | carriageReturn => ['\r']
  | both => ['\r', '\n']

namespace Text

/-! ## Unifying line ends -/

/-- The text with `new` in the place of each `first` with a `second` behind it,
both together. -/
def replacePair (first second new : Char) : Text → Text
  | c :: d :: t =>
    if c = first ∧ d = second then new :: replacePair first second new t
    else c :: replacePair first second new (d :: t)
  | t => t

/-- The text with a line feed for each carriage return that a line feed follows,
both together, and then for each of the other carriage returns. -/
def withLineFeeds (t : Text) : Text :=
  (replacePair '\r' '\n' '\n' t).map fun c => if c = '\r' then '\n' else c

theorem replacePair_cons_cons (first second new : Char) (t : Text) :
    replacePair first second new (first :: second :: t) =
      new :: replacePair first second new t := by
  rw [replacePair, if_pos ⟨rfl, rfl⟩]

theorem replacePair_cons_of_ne {first second c : Char} {t : Text}
    (h : c = first → t.head? ≠ some second) (new : Char) :
    replacePair first second new (c :: t) = c :: replacePair first second new t := by
  cases t with
  | nil => rfl
  | cons d t =>
    rw [replacePair, if_neg]
    rintro ⟨hc, rfl⟩
    exact h hc rfl

/-- Both kinds of carriage returns may be replaced in one pass. -/
theorem unifyNewlines_eq_withLineFeeds (t : Text) : t.unifyNewlines = t.withLineFeeds := by
  rw [withLineFeeds]
  fun_induction unifyNewlines t with
  | case1 => rfl
  | case2 t ih => rw [replacePair_cons_cons, List.map_cons, ih, if_neg (by decide)]
  | case3 t hlone ih =>
    have hhead : t.head? ≠ some '\n' := by
      intro h
      obtain ⟨t', ht⟩ := List.head?_eq_some_iff.1 h
      exact hlone t' ht
    rw [replacePair_cons_of_ne fun _ => hhead, List.map_cons, ih, if_pos rfl]
  | case4 c t _ hc ih =>
    rw [replacePair_cons_of_ne fun h => absurd h hc, List.map_cons, ih, if_neg hc]

theorem withLineFeeds_of_not_mem {t : Text} (h : '\r' ∉ t) : t.withLineFeeds = t := by
  rw [← unifyNewlines_eq_withLineFeeds, unifyNewlines_of_not_mem h]

/-! ## Other line ends -/

/-- The text with a line end of the convention in the place of each line feed. -/
def withLineEnds (e : LineEnd) (t : Text) : Text :=
  t.flatMap fun c => if c = '\n' then e.text else [c]

@[simp] theorem withLineEnds_nil (e : LineEnd) : withLineEnds e [] = [] := rfl

theorem withLineEnds_newline_cons (e : LineEnd) (t : Text) :
    withLineEnds e ('\n' :: t) = e.text ++ withLineEnds e t := rfl

theorem withLineEnds_cons_of_ne {c : Char} (hc : c ≠ '\n') (e : LineEnd) (t : Text) :
    withLineEnds e (c :: t) = c :: withLineEnds e t := by
  rw [withLineEnds, List.flatMap_cons, if_neg hc]
  rfl

theorem withLineEnds_lineFeed (t : Text) : withLineEnds .lineFeed t = t := by
  induction t with
  | nil => rfl
  | cons c t ih =>
    by_cases hc : c = '\n'
    · subst hc
      rw [withLineEnds_newline_cons, ih]
      rfl
    · rw [withLineEnds_cons_of_ne hc, ih]

/-- Where carriage returns end the lines, none of them has a line feed behind
it. -/
theorem head?_withLineEnds_carriageReturn (t : Text) :
    (withLineEnds .carriageReturn t).head? ≠ some '\n' := by
  cases t with
  | nil => simp
  | cons c t =>
    by_cases hc : c = '\n'
    · subst hc
      simp [withLineEnds_newline_cons, LineEnd.text]
    · simp [withLineEnds_cons_of_ne hc, hc]

theorem unifyNewlines_append_withLineEnds (e : LineEnd) (t : Text) :
    unifyNewlines (e.text ++ withLineEnds e t) = '\n' :: unifyNewlines (withLineEnds e t) := by
  cases e with
  | lineFeed => exact unifyNewlines_cons_of_ne (by decide) _
  | carriageReturn => exact unifyNewlines_return_cons (head?_withLineEnds_carriageReturn t)
  | both => rfl

/-- Every convention is taken back. -/
theorem unifyNewlines_withLineEnds {t : Text} (h : '\r' ∉ t) (e : LineEnd) :
    unifyNewlines (withLineEnds e t) = t := by
  induction t with
  | nil => rfl
  | cons c t ih =>
    rw [List.mem_cons, not_or] at h
    by_cases hc : c = '\n'
    · subst hc
      rw [withLineEnds_newline_cons, unifyNewlines_append_withLineEnds, ih h.2]
    · rw [withLineEnds_cons_of_ne hc, unifyNewlines_cons_of_ne (Ne.symm h.1), ih h.2]

/-! ## Carriage returns that are seen -/

/-- A line is another one, but for a carriage return that it may end with. -/
def EqUpToReturn (l l' : Text) : Prop := l' = l ∨ l' = l ++ ['\r']

theorem EqUpToReturn.refl (l : Text) : l.EqUpToReturn l := .inl rfl

theorem EqUpToReturn.append_left {l l' : Text} (h : l.EqUpToReturn l') (s : Text) :
    (s ++ l).EqUpToReturn (s ++ l') := by
  rcases h with rfl | rfl
  · exact .refl _
  · exact .inr (List.append_assoc _ _ _).symm

theorem forall₂_modifyHead_cons {ls ls' : List Text} (h : List.Forall₂ EqUpToReturn ls ls')
    (c : Char) :
    List.Forall₂ EqUpToReturn (ls.modifyHead (c :: ·)) (ls'.modifyHead (c :: ·)) := by
  cases h with
  | nil => exact .nil
  | cons hfirst hrest => exact .cons (hfirst.append_left [c]) hrest

theorem forall₂_lines_withLineEnds_both (t : Text) :
    List.Forall₂ EqUpToReturn t.lines (withLineEnds .both t).lines := by
  induction t with
  | nil => exact .cons (.refl []) .nil
  | cons c t ih =>
    by_cases hc : c = '\n'
    · subst hc
      rw [withLineEnds_newline_cons, lines_newline_cons, LineEnd.text, List.cons_append,
        List.singleton_append, lines_cons_of_ne (by decide), lines_newline_cons,
        List.modifyHead_cons]
      exact .cons (.inr rfl) ih
    · rw [withLineEnds_cons_of_ne hc, lines_cons_of_ne hc, lines_cons_of_ne hc]
      exact forall₂_modifyHead_cons ih c

end Text

open Text

theorem Program.scanFrom_withLineEnds_both (l : Location) (t : Text) :
    scanFrom l (t.withLineEnds .both) = scanFrom l t := by
  induction t generalizing l with
  | nil => rfl
  | cons c t ih =>
    by_cases hc : c = '\n'
    · subst hc
      rw [withLineEnds_newline_cons, LineEnd.text, List.cons_append, List.singleton_append,
        scanFrom_cons_of_none rfl, scanFrom_cons_of_none rfl, scanFrom_cons_of_none rfl, ih]
      rfl
    · rw [withLineEnds_cons_of_ne hc]
      cases ho : Op.ofChar? c with
      | none => rw [scanFrom_cons_of_none ho, scanFrom_cons_of_none ho, ih]
      | some o => rw [scanFrom_cons_of_some ho, scanFrom_cons_of_some ho, ih]

end BrainfuckC
