import BrainfuckC.Proofs.Bracket.Verdict
import Mathlib.Logic.ExistsUnique

/-!
# Forests

A forest is a program with its loops as trees: simple instructions and loops in
a row, and a forest again inside of each loop. `program` writes it down flat.
Where brackets are balanced there is exactly one forest behind a program
(`existsUnique_program_eq`).

The forest is built along the grammar of the brackets. That it is unique needs a
stronger statement, as the body of a loop is read with more text behind it: two
forests are equal as soon as what follows them begins with a `loopEnd`, if it
begins with anything.
-/

namespace BrainfuckC

/-- Instructions in a row, with everything between the two ends of a loop in its
body. -/
inductive Forest where
  | nil
  | simple (i : Instruction) (h : i.op.isBracket = false) (rest : Forest)
  | loop (first last : Location) (body rest : Forest)

namespace Forest

def program : Forest → Program
  | nil => []
  | simple i _ rest => i :: rest.program
  | loop first last body rest =>
    ⟨.loopBegin, first⟩ :: (body.program ++ ⟨.loopEnd, last⟩ :: rest.program)

theorem balanced_program (f : Forest) : Balanced f.program.brackets := by
  induction f with
  | nil => exact .nil
  | simple i h rest ih =>
    rw [program, Program.brackets_cons_of_not_bracket h]
    exact ih
  | loop first last body rest ihbody ihrest =>
    rw [program, Program.brackets_loopBegin_cons, Program.brackets_append,
      Program.brackets_loopEnd_cons]
    exact .loop ihbody ihrest

/-- Simple instructions may be put in front of any forest. -/
theorem exists_program_append {p : Program} (h : p.brackets = []) (f : Forest) :
    ∃ g : Forest, g.program = p ++ f.program := by
  induction p with
  | nil => exact ⟨f, rfl⟩
  | cons i p ih =>
    rcases i with ⟨o, l⟩
    rcases o.bracket_cases with rfl | rfl | ho
    · cases h
    · cases h
    · rw [Program.brackets_cons_of_not_bracket ho] at h
      obtain ⟨g, hg⟩ := ih h
      exact ⟨simple ⟨o, l⟩ ho g, by rw [program, hg, List.cons_append]⟩

theorem exists_program_eq {w : List Op} (hw : Balanced w) {p : Program}
    (hp : p.brackets = w) : ∃ f : Forest, f.program = p := by
  induction hw generalizing p with
  | nil =>
    obtain ⟨f, hf⟩ := exists_program_append hp nil
    exact ⟨f, by rw [hf, program, List.append_nil]⟩
  | loop hu hv ihu ihv =>
    obtain ⟨s, first, p, rfl, hs, hp⟩ := Program.eq_append_of_brackets_eq_cons hp
    obtain ⟨q, r, rfl, hq, hr⟩ := Program.eq_append_of_brackets_eq_append hp
    obtain ⟨t, last, r, rfl, ht, hr⟩ := Program.eq_append_of_brackets_eq_cons hr
    obtain ⟨body, hbody⟩ := ihu (p := q ++ t) (by simp [hq, ht])
    obtain ⟨rest, hrest⟩ := ihv hr
    obtain ⟨f, hf⟩ := exists_program_append hs (loop first last body rest)
    exact ⟨f, by simp [hf, program, hbody, hrest]⟩

/-- What may follow the body of a loop: nothing, or a `loopEnd` first. -/
def Stops (p : Program) : Prop := ∀ i ∈ p.head?, i.op = .loopEnd

theorem stops_nil : Stops [] := by
  intro i hi
  cases hi

theorem stops_loopEnd_cons (l : Location) (p : Program) : Stops (⟨.loopEnd, l⟩ :: p) := by
  intro i hi
  cases hi
  rfl

theorem not_stops_cons {i : Instruction} (h : i.op ≠ .loopEnd) (p : Program) :
    ¬ Stops (i :: p) :=
  fun hs => h (hs i rfl)

/-- A forest is determined by its program, also in front of what stops it. -/
theorem program_append_injective (f : Forest) :
    ∀ (g : Forest) (u v : Program), Stops u → Stops v →
      f.program ++ u = g.program ++ v → f = g ∧ u = v := by
  induction f with
  | nil =>
    intro g u v hu hv h
    cases g with
    | nil => exact ⟨rfl, h⟩
    | simple j hj grest =>
      obtain rfl : u = j :: (grest.program ++ v) := h
      exact absurd hu (not_stops_cons (Op.ne_loopEnd_of_not_bracket hj) _)
    | loop first last gbody grest =>
      obtain rfl : u = ⟨.loopBegin, first⟩ :: _ := h
      exact absurd hu (not_stops_cons (by simp) _)
  | simple i hi rest ih =>
    intro g u v hu hv h
    cases g with
    | nil =>
      obtain rfl : i :: (rest.program ++ u) = v := h
      exact absurd hv (not_stops_cons (Op.ne_loopEnd_of_not_bracket hi) _)
    | simple j hj grest =>
      rcases List.cons.inj h with ⟨rfl, htail⟩
      obtain ⟨rfl, huv⟩ := ih grest u v hu hv htail
      exact ⟨rfl, huv⟩
    | loop first last gbody grest =>
      rcases List.cons.inj h with ⟨rfl, -⟩
      cases hi
  | loop first last body rest ihbody ihrest =>
    intro g u v hu hv h
    cases g with
    | nil =>
      obtain rfl : ⟨.loopBegin, first⟩ :: _ = v := h
      exact absurd hv (not_stops_cons (by simp) _)
    | simple j hj grest =>
      rcases List.cons.inj h with ⟨rfl, -⟩
      cases hj
    | loop gfirst glast gbody grest =>
      simp only [program, List.cons_append, List.append_assoc, List.cons.injEq] at h
      rcases h with ⟨hfirst, htail⟩
      obtain ⟨rfl, hend⟩ :=
        ihbody gbody _ _ (stops_loopEnd_cons _ _) (stops_loopEnd_cons _ _) htail
      rcases List.cons.inj hend with ⟨hlast, hrest⟩
      obtain ⟨rfl, huv⟩ := ihrest grest u v hu hv hrest
      cases hfirst
      cases hlast
      exact ⟨rfl, huv⟩

theorem program_injective {f g : Forest} (h : f.program = g.program) : f = g :=
  (program_append_injective f g [] [] stops_nil stops_nil (by simpa using h)).1

theorem existsUnique_program_eq {p : Program} (h : p.loopFault? = none) :
    ∃! f : Forest, f.program = p := by
  obtain ⟨f, hf⟩ := exists_program_eq ((Program.loopFault?_eq_none_iff p).1 h) rfl
  exact ⟨f, hf, fun g hg => program_injective (hg.trans hf.symm)⟩

end Forest

end BrainfuckC
