import BrainfuckC.Proofs.Bracket.Verdict

/-!
# Open loops

A program acts on the check of what follows it through the loops alone that are
open behind it. `openedBehind?` is the list of these loops, so the check of a
program that is cut in two goes on with the second part inside of what the first
one leaves open (`loopFaultIn?_append_of_openedBehind?`). What the check says of
the first part by itself is read off the same list: nothing is wrong if no loop
is left open, and otherwise the innermost one is at fault.
-/

namespace BrainfuckC

namespace Program

/-- The loops that are open behind a program inside of the loops at `opened`, the
innermost one first. There is no such list if more loops end than are open. -/
def openedBehind? (opened : List Location) : Program → Option (List Location)
  | [] => some opened
  | i :: p =>
    match i.op with
    | .loopBegin => openedBehind? (i.location :: opened) p
    | .loopEnd =>
      match opened with
      | [] => none
      | _ :: outer => openedBehind? outer p
    | _ => openedBehind? opened p

@[simp] theorem openedBehind?_nil (opened : List Location) :
    openedBehind? opened [] = some opened := rfl

theorem openedBehind?_loopBegin (opened : List Location) (l : Location) (p : Program) :
    openedBehind? opened (⟨.loopBegin, l⟩ :: p) = openedBehind? (l :: opened) p := rfl

theorem openedBehind?_loopEnd_nil (l : Location) (p : Program) :
    openedBehind? [] (⟨.loopEnd, l⟩ :: p) = none := rfl

theorem openedBehind?_loopEnd_cons (b : Location) (opened : List Location) (l : Location)
    (p : Program) :
    openedBehind? (b :: opened) (⟨.loopEnd, l⟩ :: p) = openedBehind? opened p := rfl

theorem openedBehind?_cons_of_not_bracket {o : Op} (h : o.isBracket = false)
    (opened : List Location) (l : Location) (p : Program) :
    openedBehind? opened (⟨o, l⟩ :: p) = openedBehind? opened p := by
  cases o <;> first | rfl | cases h

/-- The check of a program goes on with its rest inside of the loops that its
beginning leaves open. -/
theorem loopFaultIn?_append_of_openedBehind? {opened inner : List Location} {p : Program}
    (h : openedBehind? opened p = some inner) (q : Program) :
    loopFaultIn? opened (p ++ q) = loopFaultIn? inner q := by
  induction opened, p using induction_inside with
  | nil opened =>
    obtain rfl : opened = inner := Option.some.inj h
    rfl
  | loopBegin opened l p ih =>
    rw [openedBehind?_loopBegin] at h
    rw [List.cons_append, loopFaultIn?_loopBegin, ih h]
  | loopEnd_nil l p =>
    rw [openedBehind?_loopEnd_nil] at h
    cases h
  | loopEnd_cons b opened l p ih =>
    rw [openedBehind?_loopEnd_cons] at h
    rw [List.cons_append, loopFaultIn?_loopEnd_cons, ih h]
  | other opened o l p ho ih =>
    rw [openedBehind?_cons_of_not_bracket ho] at h
    rw [List.cons_append, loopFaultIn?_cons_of_not_bracket ho, ih h]

/-- The innermost loop that is left open is at fault. -/
theorem loopFaultIn?_of_openedBehind? {opened inner : List Location} {p : Program}
    (h : openedBehind? opened p = some inner) :
    loopFaultIn? opened p = inner.head?.map (⟨.unclosed, ·⟩) := by
  rw [← List.append_nil p, loopFaultIn?_append_of_openedBehind? h]
  rfl

theorem openedBehind?_eq_none_iff (opened : List Location) (p : Program) :
    openedBehind? opened p = none ↔ ∃ l, loopFaultIn? opened p = some ⟨.unmatched, l⟩ := by
  induction opened, p using induction_inside with
  | nil opened => cases opened <;> simp
  | loopBegin opened l p ih => rw [openedBehind?_loopBegin, loopFaultIn?_loopBegin, ih]
  | loopEnd_nil l p => simp [openedBehind?_loopEnd_nil, loopFaultIn?_loopEnd_nil]
  | loopEnd_cons b opened l p ih =>
    rw [openedBehind?_loopEnd_cons, loopFaultIn?_loopEnd_cons, ih]
  | other opened o l p ho ih =>
    rw [openedBehind?_cons_of_not_bracket ho, loopFaultIn?_cons_of_not_bracket ho, ih]

/-- Where no bracket is unmatched there is a list of open loops. -/
theorem exists_openedBehind? {opened : List Location} {p : Program}
    (h : ∀ l, loopFaultIn? opened p ≠ some ⟨.unmatched, l⟩) :
    ∃ inner, openedBehind? opened p = some inner := by
  apply Option.ne_none_iff_exists'.1
  rw [ne_eq, openedBehind?_eq_none_iff]
  rintro ⟨l, hl⟩
  exact h l hl

theorem openedBehind?_of_loopFaultIn?_eq_none {opened : List Location} {p : Program}
    (h : loopFaultIn? opened p = none) : openedBehind? opened p = some [] := by
  have hnone : ∀ l, loopFaultIn? opened p ≠ some ⟨.unmatched, l⟩ := by simp [h]
  obtain ⟨inner, hinner⟩ := exists_openedBehind? hnone
  rw [loopFaultIn?_of_openedBehind? hinner] at h
  cases inner with
  | nil => exact hinner
  | cons l outer => cases h

theorem exists_openedBehind?_of_unclosed {opened : List Location} {p : Program} {l : Location}
    (h : loopFaultIn? opened p = some ⟨.unclosed, l⟩) :
    ∃ outer, openedBehind? opened p = some (l :: outer) := by
  have hnone : ∀ l, loopFaultIn? opened p ≠ some ⟨.unmatched, l⟩ := by simp [h]
  obtain ⟨inner, hinner⟩ := exists_openedBehind? hnone
  rw [loopFaultIn?_of_openedBehind? hinner] at h
  cases inner with
  | nil => cases h
  | cons m outer =>
    obtain rfl : m = l := by simpa using h
    exact ⟨outer, hinner⟩

/-- A program that is accepted does not matter to the check of what follows
it. -/
theorem loopFault?_append {p : Program} (h : p.loopFault? = none) (q : Program) :
    loopFault? (p ++ q) = q.loopFault? :=
  loopFaultIn?_append_of_openedBehind? (openedBehind?_of_loopFaultIn?_eq_none h) q

end Program

end BrainfuckC
