/-!
# Text

A text is a list of Unicode scalar values. A column of a source line, a
character of a path and an element of the list are the same thing, so lengths
and positions are counted by the list itself, and every function on texts is a
recursion on it.

`splitOn sep t` cuts `t` at every `sep`. Nothing is trimmed or merged, so there
is always one piece more than there are separators. Cutting and gluing are
inverse to each other: gluing the pieces with `sep` gives back `t`
(`intercalate_splitOn`), and pieces without `sep` are found again in what they
are glued to (`splitOn_intercalate`). The lines of a source are its pieces at
the line feed, and the components of a path its pieces at the slash.
-/

namespace BrainfuckC

abbrev Text := List Char

namespace Text

/-- The pieces of a text between the occurrences of `sep`, in order. -/
def splitOn (sep : Char) : Text → List Text
  | [] => [[]]
  | c :: t =>
    match splitOn sep t with
    | [] => [[c]]
    | piece :: pieces =>
      if c = sep then [] :: piece :: pieces else (c :: piece) :: pieces

@[simp] theorem splitOn_nil (sep : Char) : splitOn sep [] = [[]] := rfl

theorem splitOn_ne_nil (sep : Char) (t : Text) : splitOn sep t ≠ [] := by
  cases t with
  | nil => simp
  | cons c t =>
    simp only [splitOn]
    split
    · simp
    · split <;> simp

/-- A separator ends an empty piece and starts the pieces of what follows. -/
@[simp] theorem splitOn_cons_self (sep : Char) (t : Text) :
    splitOn sep (sep :: t) = [] :: splitOn sep t := by
  cases h : splitOn sep t with
  | nil => exact absurd h (splitOn_ne_nil sep t)
  | cons piece pieces => simp [splitOn, h]

/-- Any other character is put before the first piece of what follows. -/
theorem splitOn_cons_of_ne {sep c : Char} (hc : c ≠ sep) (t : Text) :
    ∃ piece pieces, splitOn sep t = piece :: pieces ∧
      splitOn sep (c :: t) = (c :: piece) :: pieces := by
  cases h : splitOn sep t with
  | nil => exact absurd h (splitOn_ne_nil sep t)
  | cons piece pieces => exact ⟨piece, pieces, rfl, by simp [splitOn, h, hc]⟩

theorem intercalate_splitOn (sep : Char) (t : Text) :
    List.intercalate [sep] (splitOn sep t) = t := by
  induction t with
  | nil => rfl
  | cons c t ih =>
    by_cases hc : c = sep
    · subst hc
      rw [splitOn_cons_self]
      cases h : splitOn c t with
      | nil => exact absurd h (splitOn_ne_nil c t)
      | cons piece pieces =>
        rw [h] at ih
        simpa [List.intercalate] using ih
    · obtain ⟨piece, pieces, ht, hct⟩ := splitOn_cons_of_ne hc t
      rw [ht] at ih
      rw [hct]
      cases pieces with
      | nil => simpa [List.intercalate] using ih
      | cons second rest => simpa [List.intercalate] using ih

theorem splitOn_of_not_mem {sep : Char} {t : Text} (h : sep ∉ t) : splitOn sep t = [t] := by
  induction t with
  | nil => rfl
  | cons c t ih =>
    rw [List.mem_cons, not_or] at h
    simp [splitOn, ih h.2, Ne.symm h.1]

/-- The first separator ends the first piece. -/
theorem splitOn_append_cons {sep : Char} {s : Text} (h : sep ∉ s) (t : Text) :
    splitOn sep (s ++ sep :: t) = s :: splitOn sep t := by
  induction s with
  | nil => simp
  | cons c s ih =>
    rw [List.mem_cons, not_or] at h
    simp [splitOn, ih h.2, Ne.symm h.1]

/-- Pieces without the separator are found again after they have been glued
together. -/
theorem splitOn_intercalate {sep : Char} {pieces : List Text} (hne : pieces ≠ [])
    (h : ∀ piece ∈ pieces, sep ∉ piece) :
    splitOn sep (List.intercalate [sep] pieces) = pieces := by
  induction pieces with
  | nil => exact absurd rfl hne
  | cons piece pieces ih =>
    have hpiece : sep ∉ piece := h piece List.mem_cons_self
    cases pieces with
    | nil => simpa [List.intercalate] using splitOn_of_not_mem hpiece
    | cons second rest =>
      have hrest := ih (by simp) fun p hp => h p (List.mem_cons_of_mem _ hp)
      have hglue : List.intercalate [sep] (piece :: second :: rest) =
          piece ++ sep :: List.intercalate [sep] (second :: rest) := by
        simp [List.intercalate]
      rw [hglue, splitOn_append_cons hpiece, hrest]

theorem not_mem_of_mem_splitOn {sep : Char} {t piece : Text}
    (h : piece ∈ splitOn sep t) : sep ∉ piece := by
  induction t generalizing piece with
  | nil => simp_all
  | cons c t ih =>
    by_cases hc : c = sep
    · subst hc
      rw [splitOn_cons_self, List.mem_cons] at h
      rcases h with rfl | h
      · simp
      · exact ih h
    · obtain ⟨first, rest, ht, hct⟩ := splitOn_cons_of_ne hc t
      rw [hct, List.mem_cons] at h
      rcases h with rfl | h
      · have hfirst : sep ∉ first := ih (by simp [ht])
        simp [hfirst, Ne.symm hc]
      · exact ih (by simp [ht, h])

/-- The lines of a text: only a line feed ends a line. -/
def lines (t : Text) : List Text := splitOn '\n' t

/-- Lines put below one another; the last one is left open. -/
def unlines (ls : List Text) : Text := List.intercalate ['\n'] ls

def closedLines (ls : List Text) : Text := ls.flatMap (· ++ ['\n'])

@[simp] theorem closedLines_nil : closedLines [] = [] := rfl

@[simp] theorem closedLines_cons (l : Text) (ls : List Text) :
    closedLines (l :: ls) = l ++ '\n' :: closedLines ls := by
  simp [closedLines]

@[simp] theorem closedLines_append (ls ms : List Text) :
    closedLines (ls ++ ms) = closedLines ls ++ closedLines ms := by
  simp [closedLines]

end Text

end BrainfuckC
