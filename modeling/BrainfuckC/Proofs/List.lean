import Mathlib.Data.List.Basic

/-!
# Lists

What several parts of the development need to know of lists, whatever their
elements are. A list is cut at one of its elements, and an element that is filtered
out alone occurs once.

A history of commands is a list too, and the state behind it is found by performing
one after the other. If some of the commands set a value and all others leave it
alone, the value behind the history is the one that was set last
(`foldl_eq_getLastD_set`).
-/

namespace BrainfuckC

theorem eq_take_append_cons_drop {α : Type*} {l : List α} {n : Nat} {a : α}
    (h : l[n]? = some a) : l = l.take n ++ a :: l.drop (n + 1) := by
  obtain ⟨hlt, hget⟩ := List.getElem?_eq_some_iff.1 h
  rw [← hget, ← List.drop_eq_getElem_cons, List.take_append_drop]

theorem not_mem_of_filter_eq_singleton {α : Type*} [DecidableEq α] {p : α → Bool} {x : α}
    {before after : List α} (h : (before ++ x :: after).filter p = [x]) :
    x ∉ before ∧ x ∉ after := by
  have hx : p x = true := List.of_mem_filter (h ▸ List.mem_singleton_self x)
  have hcount : (before ++ x :: after).count x = 1 := by
    rw [← List.count_filter hx, h, List.count_singleton_self]
  rw [List.count_append, List.count_cons_self] at hcount
  rw [← List.count_eq_zero, ← List.count_eq_zero]
  omega

/-- `set? c` is the value that the command `c` sets, if it sets one. -/
theorem foldl_eq_getLastD_set {σ γ α : Type*} {perform : σ → γ → σ} (value : σ → α)
    {set? : γ → Option α} (h : ∀ s c, value (perform s c) = (set? c).getD (value s)) (s : σ)
    (history : List γ) :
    value (history.foldl perform s) = (history.filterMap set?).getLastD (value s) := by
  induction history generalizing s with
  | nil => rfl
  | cons c history ih =>
    rw [List.foldl_cons, ih, h]
    cases hc : set? c with
    | none => rw [List.filterMap_cons_none hc, Option.getD_none]
    | some a => rw [List.filterMap_cons_some hc, List.getLastD_cons, Option.getD_some]

end BrainfuckC
