import BrainfuckC.Program

/-!
# The order of locations

Passing a text goes down by lines and to the right within a line, and a line
feed goes back to the first column of the next line. Either way the location
comes later than the one before, so the instructions of a text stand in strictly
ascending order (`pairwise_before_scanFrom`), and no two of them have the same
location.
-/

namespace BrainfuckC

namespace Location

/-- A location comes before another one: on an earlier line, or on the same line
further to the left. -/
def Before (l m : Location) : Prop :=
  l.line < m.line ∨ l.line = m.line ∧ l.column < m.column

instance (l m : Location) : Decidable (l.Before m) :=
  inferInstanceAs (Decidable (_ ∨ _))

theorem Before.trans {l m n : Location} (h₁ : l.Before m) (h₂ : m.Before n) : l.Before n := by
  unfold Before at *
  omega

theorem Before.ne {l m : Location} (h : l.Before m) : l ≠ m := by
  rintro rfl
  unfold Before at h
  omega

theorem before_next (l : Location) (c : Char) : l.Before (l.next c) := by
  by_cases hc : c = '\n'
  · subst hc
    exact .inl (Int.lt_succ _)
  · rw [next_of_ne hc]
    exact .inr ⟨rfl, Int.lt_succ _⟩

end Location

namespace Program

theorem before_of_mem_scanFrom {l m : Location} (h : l.Before m) {t : Text} {i : Instruction}
    (hi : i ∈ scanFrom m t) : l.Before i.location := by
  induction t generalizing m with
  | nil => cases hi
  | cons c t ih =>
    have hnext := h.trans (m.before_next c)
    cases hc : Op.ofChar? c with
    | none =>
      rw [scanFrom_cons_of_none hc] at hi
      exact ih hnext hi
    | some o =>
      rw [scanFrom_cons_of_some hc, List.mem_cons] at hi
      rcases hi with rfl | hi
      · exact h
      · exact ih hnext hi

theorem pairwise_before_scanFrom (l : Location) (t : Text) :
    (scanFrom l t).Pairwise fun i j => i.location.Before j.location := by
  induction t generalizing l with
  | nil => exact .nil
  | cons c t ih =>
    cases hc : Op.ofChar? c with
    | none =>
      rw [scanFrom_cons_of_none hc]
      exact ih _
    | some o =>
      rw [scanFrom_cons_of_some hc]
      exact .cons (fun i hi => before_of_mem_scanFrom (l.before_next c) hi) (ih _)

theorem nodup_map_location (t : Text) : ((ofText t).map Instruction.location).Nodup := by
  rw [List.Nodup, List.pairwise_map]
  exact (pairwise_before_scanFrom .start t).imp fun h => h.ne

end Program

end BrainfuckC
