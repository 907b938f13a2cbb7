import BrainfuckC.Text

/-!
# Line ends

Files end their lines with a line feed, a carriage return or both. A text read
from a file has line feeds only.
-/

namespace BrainfuckC

namespace Text

/-- The text with every line end written as a line feed. A carriage return and
the line feed behind it are one line end. -/
def unifyNewlines : Text → Text
  | [] => []
  | '\r' :: '\n' :: t => '\n' :: unifyNewlines t
  | '\r' :: t => '\n' :: unifyNewlines t
  | c :: t => c :: unifyNewlines t

theorem unifyNewlines_cons_of_ne {c : Char} (hc : c ≠ '\r') (t : Text) :
    unifyNewlines (c :: t) = c :: unifyNewlines t :=
  unifyNewlines.eq_4 c t (fun _ h _ => hc h) hc

/-- A carriage return by itself is a line end. -/
theorem unifyNewlines_return_cons {t : Text} (h : t.head? ≠ some '\n') :
    unifyNewlines ('\r' :: t) = '\n' :: unifyNewlines t := by
  apply unifyNewlines.eq_3
  rintro t' rfl
  exact h rfl

theorem not_mem_unifyNewlines (t : Text) : '\r' ∉ unifyNewlines t := by
  fun_induction unifyNewlines t with
  | case1 => simp
  | case2 t ih => simp [ih]
  | case3 t _ ih => simp [ih]
  | case4 c t _ hc ih => simp [ih, Ne.symm hc]

theorem unifyNewlines_of_not_mem {t : Text} (h : '\r' ∉ t) : unifyNewlines t = t := by
  fun_induction unifyNewlines t with
  | case1 => rfl
  | case2 => simp at h
  | case3 => simp at h
  | case4 c t _ _ ih =>
    rw [ih fun ht => h (List.mem_cons_of_mem _ ht)]

end Text

end BrainfuckC
