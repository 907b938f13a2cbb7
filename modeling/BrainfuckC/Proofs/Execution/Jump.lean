import BrainfuckC.Proofs.Execution.Memory
import BrainfuckC.Proofs.Forest.Basic

/-!
# Running a program by jumps

A program runs as it stands, as a flat list with a counter into it. A `loopBegin`
on a zero cell jumps behind its partner and a `loopEnd` back to its own; every
other instruction is followed by the next one. Partners are found by counting
brackets on the way, to the right from a `loopBegin` and to the left from a
`loopEnd`.

A stretch of a program is neutral for this search if passing it leaves the count
of open brackets as it was. The program of a forest is neutral in both
directions, so the search for a partner passes the body of its loop.
-/

namespace BrainfuckC

namespace Program

/-- How many instructions lie before the `leave` that belongs to the place where
the search begins, if each `enter` on the way takes one of its own. -/
def distance? (enter leave : Op) : Nat → Program → Option Nat
  | _, [] => none
  | d, i :: p =>
    if i.op = enter then (distance? enter leave (d + 1) p).map (· + 1)
    else if i.op = leave then
      match d with
      | 0 => some 0
      | d + 1 => (distance? enter leave d p).map (· + 1)
    else (distance? enter leave d p).map (· + 1)

/-- Where the loop ends that begins at `k`. -/
def loopEnd? (p : Program) (k : Nat) : Option Nat :=
  (distance? .loopBegin .loopEnd 0 (p.drop (k + 1))).map (k + 1 + ·)

/-- Where the loop begins that ends at `k`. -/
def loopBegin? (p : Program) (k : Nat) : Option Nat :=
  (distance? .loopEnd .loopBegin 0 (p.take k).reverse).map (k - 1 - ·)

variable {C : Convention}

/-- One step: the instruction at `k` is performed, and the run goes on at another
place with another memory. There is no step behind the last instruction and none
that leaves the tape. -/
def step? (p : Program) (k : Nat) (m : Memory C) : Option (Nat × Memory C) :=
  match p[k]? with
  | none => none
  | some i =>
    match i.op with
    | .loopBegin =>
      if m.cell = 0 then (p.loopEnd? k).map fun j => (j + 1, m) else some (k + 1, m)
    | .loopEnd => (p.loopBegin? k).map fun j => (j, m)
    | o => (o.perform? m).map fun m' => (k + 1, m')

/-- What may be seen of a run from `k` on after `n` steps. It is finished when
the counter is behind the program, and stuck when there is an instruction but no
step. -/
inductive RunsIn (p : Program) : Nat → Nat → Memory C → Outcome C → Prop where
  | pause (k : Nat) (m : Memory C) : RunsIn p 0 k m (.running m)
  | finish {k : Nat} (m : Memory C) (h : p[k]? = none) : RunsIn p 0 k m (.finished m)
  | stick {k : Nat} {m : Memory C} (hk : p[k]? ≠ none) (h : p.step? k m = none) :
      RunsIn p 0 k m (.stuck m)
  | step {n k k' : Nat} {m m' : Memory C} {o : Outcome C} (h : p.step? k m = some (k', m'))
      (hrest : RunsIn p n k' m' o) : RunsIn p (n + 1) k m o

def RunsFrom (p : Program) (k : Nat) (m : Memory C) (o : Outcome C) : Prop :=
  ∃ n, p.RunsIn n k m o

def Runs (p : Program) (m : Memory C) (o : Outcome C) : Prop := p.RunsFrom 0 m o

theorem RunsIn.eq_of_finished {p : Program} {n k : Nat} {m m₁ : Memory C} {o : Outcome C}
    (h : p.RunsIn n k m o) (ho : o = .finished m₁) :
    ∀ {n' : Nat} {m₂ : Memory C}, p.RunsIn n' k m (.finished m₂) → m₁ = m₂ := by
  induction h with
  | pause k m => cases ho
  | stick hk h => cases ho
  | finish m hend =>
    intro n' m₂ h'
    cases ho
    cases h' with
    | finish => rfl
    | step hstep => simp [step?, hend] at hstep
  | step hstep hrest ih =>
    intro n' m₂ h'
    cases h' with
    | finish _ hend => simp [step?, hend] at hstep
    | step hstep' hrest' =>
      rw [hstep] at hstep'
      cases hstep'
      exact ih ho hrest'

/-! ### Neutral stretches -/

theorem distance?_enter_cons (enter leave : Op) (d : Nat) (l : Location) (p : Program) :
    distance? enter leave d (⟨enter, l⟩ :: p) =
      (distance? enter leave (d + 1) p).map (· + 1) := by
  cases d <;> simp [distance?]

theorem distance?_leave_cons_zero {enter leave : Op} (hne : leave ≠ enter) (l : Location)
    (p : Program) : distance? enter leave 0 (⟨leave, l⟩ :: p) = some 0 := by
  simp [distance?, hne]

theorem distance?_leave_cons_succ {enter leave : Op} (hne : leave ≠ enter) (d : Nat)
    (l : Location) (p : Program) :
    distance? enter leave (d + 1) (⟨leave, l⟩ :: p) =
      (distance? enter leave d p).map (· + 1) := by
  simp [distance?, hne]

/-- Passing `q` changes nothing for the search but the distance. -/
def Neutral (enter leave : Op) (q : Program) : Prop :=
  ∀ (d : Nat) (p : Program),
    distance? enter leave d (q ++ p) = (distance? enter leave d p).map (q.length + ·)

theorem neutral_nil (enter leave : Op) : Neutral enter leave [] := by
  intro d p
  simp

theorem Neutral.append {enter leave : Op} {q r : Program} (hq : Neutral enter leave q)
    (hr : Neutral enter leave r) : Neutral enter leave (q ++ r) := by
  intro d p
  have hsum : (q.length + ·) ∘ (r.length + ·) = ((q ++ r).length + ·) := by
    funext n
    simp [Nat.add_assoc]
  rw [List.append_assoc, hq, hr, Option.map_map, hsum]

theorem neutral_singleton {enter leave : Op} {i : Instruction} (he : i.op ≠ enter)
    (hl : i.op ≠ leave) : Neutral enter leave [i] := by
  intro d p
  simp [distance?, he, hl, Nat.add_comm]

theorem Neutral.enclosed {enter leave : Op} (hne : leave ≠ enter) {q : Program}
    (hq : Neutral enter leave q) (l l' : Location) :
    Neutral enter leave (⟨enter, l⟩ :: (q ++ [⟨leave, l'⟩])) := by
  intro d p
  have hsum : ((· + 1) ∘ (q.length + ·)) ∘ (· + 1) =
      ((⟨enter, l⟩ :: (q ++ [⟨leave, l'⟩]) : Program).length + ·) := by
    funext n
    simp
    omega
  rw [List.cons_append, List.append_assoc, distance?_enter_cons, hq, List.singleton_append,
    distance?_leave_cons_succ hne, Option.map_map, Option.map_map, hsum]

end Program

namespace Forest

open Program

theorem neutral_program (f : Forest) : Neutral .loopBegin .loopEnd f.program := by
  induction f with
  | nil => exact neutral_nil _ _
  | simple i h rest ih =>
    exact (neutral_singleton (Op.ne_loopBegin_of_not_bracket h)
      (Op.ne_loopEnd_of_not_bracket h)).append ih
  | loop first last body rest ihbody ihrest =>
    have hloop := (ihbody.enclosed (by decide) first last).append ihrest
    rwa [List.cons_append, List.append_assoc] at hloop

theorem neutral_reverse_program (f : Forest) :
    Neutral .loopEnd .loopBegin f.program.reverse := by
  induction f with
  | nil => exact neutral_nil _ _
  | simple i h rest ih =>
    rw [program, List.reverse_cons]
    exact ih.append (neutral_singleton (Op.ne_loopEnd_of_not_bracket h)
      (Op.ne_loopBegin_of_not_bracket h))
  | loop first last body rest ihbody ihrest =>
    have hloop := ihrest.append (ihbody.enclosed (by decide) last first)
    rw [program]
    simpa using hloop

end Forest

namespace Program

variable {C : Convention} {p q r : Program} {k : Nat} {i : Instruction} {m : Memory C}

/-- The instructions from `k` on are those of `q`, and possibly more. -/
def StandsAt (p : Program) (k : Nat) (q : Program) : Prop :=
  ∃ before after : Program, p = before ++ (q ++ after) ∧ before.length = k

theorem standsAt_zero (p : Program) : p.StandsAt 0 p := ⟨[], [], by simp, rfl⟩

theorem StandsAt.getElem? (h : p.StandsAt k (i :: q)) : p[k]? = some i := by
  rcases h with ⟨before, after, rfl, rfl⟩
  simp

theorem StandsAt.append_right (h : p.StandsAt k (q ++ r)) : p.StandsAt (k + q.length) r := by
  rcases h with ⟨before, after, rfl, rfl⟩
  exact ⟨before ++ q, after, by simp, by simp⟩

theorem StandsAt.append_left (h : p.StandsAt k (q ++ r)) : p.StandsAt k q := by
  rcases h with ⟨before, after, rfl, rfl⟩
  exact ⟨before, r ++ after, by simp, rfl⟩

theorem StandsAt.tail (h : p.StandsAt k (i :: q)) : p.StandsAt (k + 1) q :=
  append_right (q := [i]) h

/-! ### Steps where a forest stands -/

theorem step?_of_not_bracket (h : p.StandsAt k (i :: q)) (hi : i.op.isBracket = false) :
    p.step? k m = (i.op.perform? m).map fun m' => (k + 1, m') := by
  rcases i with ⟨o, l⟩
  simp only [step?, h.getElem?]
  cases o <;> first | rfl | cases hi

variable {first last : Location} {body : Forest}

theorem step?_loopBegin_of_ne (h : p.StandsAt k (⟨.loopBegin, first⟩ :: q))
    (hm : m.cell ≠ 0) : p.step? k m = some (k + 1, m) := by
  simp only [step?, h.getElem?, if_neg hm]

theorem step?_loopBegin_of_eq
    (h : p.StandsAt k (⟨.loopBegin, first⟩ :: (body.program ++ ⟨.loopEnd, last⟩ :: q)))
    (hm : m.cell = 0) : p.step? k m = some (k + 1 + body.program.length + 1, m) := by
  have hpartner : p.loopEnd? k = some (k + 1 + body.program.length) := by
    rcases h with ⟨before, after, rfl, rfl⟩
    rw [loopEnd?, List.drop_length_add_append, List.cons_append, List.drop_succ_cons,
      List.drop_zero, List.append_assoc, body.neutral_program, List.cons_append,
      distance?_leave_cons_zero (by decide)]
    rfl
  simp only [step?, h.getElem?, if_pos hm, hpartner, Option.map_some]

theorem step?_loopEnd
    (h : p.StandsAt k (⟨.loopBegin, first⟩ :: (body.program ++ ⟨.loopEnd, last⟩ :: q))) :
    p.step? (k + 1 + body.program.length) m = some (k, m) := by
  have hpartner : p.loopBegin? (k + 1 + body.program.length) = some k := by
    rcases h with ⟨before, after, rfl, rfl⟩
    have htake : (before ++ (⟨.loopBegin, first⟩ ::
        (body.program ++ ⟨.loopEnd, last⟩ :: q) ++ after)).take
          (before.length + 1 + body.program.length) =
        before ++ ⟨.loopBegin, first⟩ :: body.program := by
      rw [Nat.add_assoc, List.take_length_add_append, Nat.add_comm, List.cons_append,
        List.take_succ_cons, List.append_assoc, List.take_left]
    rw [loopBegin?, htake, List.reverse_append, List.reverse_cons, List.append_assoc,
      body.neutral_reverse_program, List.singleton_append,
      distance?_leave_cons_zero (by decide), Option.map_some, Option.map_some,
      List.length_reverse]
    exact congrArg some (by omega)
  have hend := h.tail.append_right
  simp only [step?, hend.getElem?, hpartner, Option.map_some]

example : loopEnd? (Program.ofText "+[[-]]".toList) 1 = some 5 ∧
    loopBegin? (Program.ofText "+[[-]]".toList) 5 = some 1 := by
  decide

end Program

end BrainfuckC
