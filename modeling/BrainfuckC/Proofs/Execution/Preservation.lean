import BrainfuckC.Compilation
import BrainfuckC.Proofs.Execution.Jump
import BrainfuckC.Proofs.Execution.Reading

/-!
# Compilation preserves meaning

A program that the loop check accepts runs in the same way by jumps and as the
block that is read from its code: what may be seen of one run, at its end or on
the way, may be seen of the other. So one of them comes to its end if and only if
the other does, and then with the same memory.

Both directions compare a block with the stretch of the program where its forest
stands, from the first instruction of the stretch to the place behind it. From
block to program the induction is on the run of the block. From program to block
it is on the number of steps: a loop is met again after its body, and only the
steps taken until then make the rest of the run shorter.
-/

namespace BrainfuckC

variable {C : Convention}

/-- What is seen of a run that goes on with another one once it is finished, given
what is seen of its first part. -/
inductive Outcome.FollowedBy (R : Memory C → Outcome C → Prop) : Outcome C → Outcome C → Prop where
  | finished {m : Memory C} {o : Outcome C} (h : R m o) : FollowedBy R (.finished m) o
  | unfinished {o : Outcome C} (h : ∀ m, o ≠ .finished m) : FollowedBy R o o

namespace Outcome.FollowedBy

variable {R : Memory C → Outcome C → Prop} {m : Memory C} {o o' : Outcome C}

theorem of_finished (h : FollowedBy R (.finished m) o) : R m o := by
  cases h with
  | finished h => exact h
  | unfinished h => exact absurd rfl (h m)

theorem eq_of_unfinished (ho : ∀ m, o ≠ .finished m) (h : FollowedBy R o o') : o' = o := by
  cases h with
  | finished h => exact absurd rfl (ho _)
  | unfinished h => rfl

theorem mono {R' : Memory C → Outcome C → Prop} (hR : ∀ m o, R m o → R' m o)
    (h : FollowedBy R o o') : FollowedBy R' o o' := by
  cases h with
  | finished h => exact .finished (hR _ _ h)
  | unfinished h => exact .unfinished h

end Outcome.FollowedBy

namespace Program

def RunsWithin (p : Program) (n k : Nat) (m : Memory C) (o : Outcome C) : Prop :=
  ∃ n' ≤ n, p.RunsIn n' k m o

theorem RunsWithin.mono {p : Program} {n n' k : Nat} {m : Memory C} {o : Outcome C}
    (hn : n ≤ n') (h : p.RunsWithin n k m o) : p.RunsWithin n' k m o := by
  rcases h with ⟨l, hl, hrun⟩
  exact ⟨l, hl.trans hn, hrun⟩

theorem RunsFrom.step {p : Program} {k k' : Nat} {m m' : Memory C} {o : Outcome C}
    (h : p.step? k m = some (k', m')) (hrest : p.RunsFrom k' m' o) : p.RunsFrom k m o := by
  rcases hrest with ⟨n, hn⟩
  exact ⟨n + 1, .step h hn⟩

end Program

namespace Forest

open Program Outcome

variable {p : Program}

theorem add_length_simple (k : Nat) (i : Instruction) (h : i.op.isBracket = false)
    (rest : Forest) :
    k + (simple i h rest).program.length = k + 1 + rest.program.length := by
  rw [program, List.length_cons]
  omega

theorem add_length_loop (k : Nat) (first last : Location) (body rest : Forest) :
    k + (loop first last body rest).program.length =
      k + 1 + body.program.length + 1 + rest.program.length := by
  rw [program, List.length_cons, List.length_append, List.length_cons]
  omega

/-- A program does what the block does, where the forest of the block stands. -/
theorem runsFrom_of_runs {b : Block} {m : Memory C} {o : Outcome C} (h : b.Runs m o) :
    ∀ {f : Forest} {k : Nat} {o' : Outcome C}, f.block = b → p.StandsAt k f.program →
      o.FollowedBy (p.RunsFrom (k + f.program.length)) o' → p.RunsFrom k m o' := by
  induction h with
  | pause b m =>
    intro f k o' hf hp ho
    rw [ho.eq_of_unfinished (by simp)]
    exact ⟨0, .pause k m⟩
  | done m =>
    intro f k o' hf hp ho
    obtain rfl := eq_nil_of_block_eq hf
    exact ho.of_finished
  | stick rest h =>
    intro f k o' hf hp ho
    obtain ⟨i, hi, rest', rfl, rfl, rfl⟩ := eq_simple_of_block_eq hf
    rw [Op.perform?_toStatement] at h
    rw [ho.eq_of_unfinished (by simp)]
    refine ⟨0, .stick (by simp [hp.getElem?]) ?_⟩
    rw [step?_of_not_bracket hp hi, h, Option.map_none]
  | statement h hrest ih =>
    intro f k o' hf hp ho
    obtain ⟨i, hi, rest', rfl, rfl, rfl⟩ := eq_simple_of_block_eq hf
    rw [Op.perform?_toStatement] at h
    rw [add_length_simple] at ho
    refine .step ?_ (ih rfl hp.tail ho)
    rw [step?_of_not_bracket hp hi, h, Option.map_some]
  | leave body h hrest ih =>
    intro f k o' hf hp ho
    obtain ⟨first, last, body', rest', rfl, rfl, rfl⟩ := eq_loop_of_block_eq hf
    rw [add_length_loop] at ho
    exact .step (step?_loopBegin_of_eq hp h) (ih rfl hp.tail.append_right.tail ho)
  | again h hbody hloop ihbody ihloop =>
    intro f k o' hf hp ho
    obtain ⟨first, last, body', rest', rfl, rfl, rfl⟩ := eq_loop_of_block_eq hf
    -- The body is followed by its `loopEnd`, and that by the same loop once more.
    refine .step (step?_loopBegin_of_ne hp h) (ihbody rfl hp.tail.append_left ?_)
    exact .finished (.step (step?_loopEnd hp) (ihloop rfl hp ho))
  | inside rest h hbody ho' ih =>
    intro f k o' hf hp ho
    obtain ⟨first, last, body', rest', rfl, rfl, rfl⟩ := eq_loop_of_block_eq hf
    rw [ho.eq_of_unfinished ho']
    exact .step (step?_loopBegin_of_ne hp h) (ih rfl hp.tail.append_left (.unfinished ho'))

/-- At the end of a loop a run is seen there or goes on, with fewer steps, where the
loop begins. -/
theorem eq_running_or_runsIn_of_loopEnd {n k : Nat} {m : Memory C} {o : Outcome C}
    {first last : Location} {body : Forest} {q : Program}
    (hp : p.StandsAt k (⟨.loopBegin, first⟩ :: (body.program ++ ⟨.loopEnd, last⟩ :: q)))
    (h : p.RunsWithin n (k + 1 + body.program.length) m o) :
    o = .running m ∨ ∃ n' < n, p.RunsIn n' k m o := by
  rcases h with ⟨l, hl, hrun⟩
  cases hrun with
  | pause => exact .inl rfl
  | finish _ hend => simp [hp.tail.append_right.getElem?] at hend
  | stick _ hstep => simp [step?_loopEnd hp] at hstep
  | @step l _ _ _ _ _ hstep hrest =>
    rw [step?_loopEnd hp] at hstep
    cases hstep
    exact .inr ⟨l, hl, hrest⟩

/-- The block does what a program does, where its forest stands, and leaves no
more steps to what follows. -/
theorem exists_runs_of_runsIn (n : Nat) :
    ∀ {f : Forest} {k : Nat} {m : Memory C} {o : Outcome C}, p.StandsAt k f.program →
      p.RunsIn n k m o → ∃ o', f.block.Runs m o' ∧
        o'.FollowedBy (p.RunsWithin n (k + f.program.length)) o := by
  induction n using Nat.strong_induction_on with
  | _ n ih =>
    intro f k m o hp h
    cases f with
    | nil => exact ⟨.finished m, .done m, .finished ⟨n, Nat.le_refl n, h⟩⟩
    | simple i hi rest =>
      rw [add_length_simple]
      cases h with
      | pause => exact ⟨.running m, .pause _ m, .unfinished (by simp)⟩
      | finish _ hend => simp [hp.getElem?] at hend
      | stick _ hstep =>
        rw [step?_of_not_bracket hp hi, Option.map_eq_none_iff,
          ← Op.perform?_toStatement hi] at hstep
        exact ⟨.stuck m, .stick rest.block hstep, .unfinished (by simp)⟩
      | @step n k' _ _ m' _ hstep hrest =>
        rw [step?_of_not_bracket hp hi, Option.map_eq_some_iff] at hstep
        rcases hstep with ⟨m₁, hm₁, hpair⟩
        rcases Prod.mk.inj hpair with ⟨rfl, rfl⟩
        rw [← Op.perform?_toStatement hi] at hm₁
        obtain ⟨o', hrun, hthen⟩ := ih n (Nat.lt_succ_self n) hp.tail hrest
        exact ⟨o', .statement hm₁ hrun, hthen.mono fun _ _ => .mono (Nat.le_succ n)⟩
    | loop first last body rest =>
      rw [add_length_loop]
      cases h with
      | pause => exact ⟨.running m, .pause _ m, .unfinished (by simp)⟩
      | finish _ hend => simp [hp.getElem?] at hend
      | stick _ hstep =>
        by_cases hm : m.cell = 0
        · simp [step?_loopBegin_of_eq hp hm] at hstep
        · simp [step?_loopBegin_of_ne hp hm] at hstep
      | @step n k' _ _ m' _ hstep hrest =>
        by_cases hm : m.cell = 0
        · rw [step?_loopBegin_of_eq hp hm] at hstep
          cases hstep
          obtain ⟨o', hrun, hthen⟩ :=
            ih n (Nat.lt_succ_self n) hp.tail.append_right.tail hrest
          exact ⟨o', .leave body.block hm hrun, hthen.mono fun _ _ => .mono (Nat.le_succ n)⟩
        · rw [step?_loopBegin_of_ne hp hm] at hstep
          cases hstep
          obtain ⟨o', hbody, hthen⟩ := ih n (Nat.lt_succ_self n) hp.tail.append_left hrest
          cases hthen with
          | unfinished ho => exact ⟨o, .inside rest.block hm hbody ho, .unfinished ho⟩
          | finished hend =>
            rcases eq_running_or_runsIn_of_loopEnd hp hend with rfl | ⟨n', hn', hagain⟩
            · exact ⟨_, .again hm hbody (.pause _ _), .unfinished (by simp)⟩
            · -- Back at the same loop, with fewer steps left than at the beginning.
              obtain ⟨o', hloop, hthen⟩ := ih n' (hn'.trans (Nat.lt_succ_self n)) hp hagain
              rw [add_length_loop] at hthen
              exact ⟨o', .again hm hbody hloop, hthen.mono fun _ _ => .mono (by omega)⟩

end Forest

/-- What has come to its end was running there before. -/
theorem Block.Runs.running_of_finished {b : Block} {m : Memory C} {o : Outcome C}
    (h : b.Runs m o) : ∀ {m' : Memory C}, o = .finished m' → b.Runs m (.running m') := by
  induction h with
  | pause b m =>
    intro m' ho
    cases ho
  | done m =>
    intro m' ho
    cases ho
    exact .pause .done m
  | stick rest h =>
    intro m' ho
    cases ho
  | statement h hrest ih =>
    intro m' ho
    exact .statement h (ih ho)
  | leave body h hrest ih =>
    intro m' ho
    exact .leave body h (ih ho)
  | again h hbody hloop ihbody ihloop =>
    intro m' ho
    exact .again h hbody (ihloop ho)
  | inside rest h hbody ho' ih =>
    intro m' ho
    exact absurd ho (ho' m')

theorem Forest.runs_program_iff (f : Forest) (m : Memory C) (o : Outcome C) :
    f.program.Runs m o ↔ f.block.Runs m o := by
  have hend : ∀ m' : Memory C, f.program.step? f.program.length m' = none := by
    intro m'
    simp [Program.step?]
  constructor
  · rintro ⟨n, hn⟩
    obtain ⟨o', hrun, hthen⟩ := exists_runs_of_runsIn n (Program.standsAt_zero _) hn
    cases hthen with
    | unfinished ho => exact hrun
    | finished hrest =>
      rw [Nat.zero_add] at hrest
      rcases hrest with ⟨l, -, hrest⟩
      cases hrest with
      | pause => exact hrun.running_of_finished rfl
      | finish => exact hrun
      | stick hk => simp at hk
      | step hstep => simp [hend] at hstep
  · intro h
    refine runsFrom_of_runs h rfl (Program.standsAt_zero _) ?_
    rw [Nat.zero_add]
    cases o with
    | finished m' => exact .finished ⟨0, .finish m' (by simp)⟩
    | stuck m' => exact .unfinished (by simp)
    | running m' => exact .unfinished (by simp)

/-- Compilation preserves meaning. If the loop check accepts a source, it is
compiled under any options to a C text that can be read back as a block, and for
every convention and memory the runs of the program by jumps and the runs of the
block are the same: what may be seen of them on the way, whether and where they
get stuck, and whether they come to an end, which they do with the same memory. -/
theorem runs_iff_runs_of_compiled {source : Text}
    (h : (Program.ofText source).loopFault? = none) (options : Options) :
    ∃ (made : Compilation) (block : Block),
      Compilation.ofText options source = .ok made ∧ Block.ofCode? made.code = some block ∧
      ∀ (C : Convention) (m : Memory C),
        (∀ o : Outcome C, (Program.ofText source).Runs m o ↔ block.Runs m o) ∧
        ∀ m₁ m₂ : Memory C, (Program.ofText source).Runs m (.finished m₁) →
          block.Runs m (.finished m₂) → m₁ = m₂ := by
  obtain ⟨f, hf, -⟩ := Forest.existsUnique_program_eq h
  have hok : (Program.ofText source).refusal? options = none := by
    rw [Program.refusal?, h, ite_self]
  refine ⟨_, f.block, Compilation.ofTextWith_of_no_refusal hok Code.preface, ?_, ?_⟩
  · rw [← hf]
    exact f.ofCode?_render
  · intro C m
    rw [← hf]
    refine ⟨f.runs_program_iff m, ?_⟩
    intro m₁ m₂ h₁ h₂
    rcases h₁ with ⟨n₁, hn₁⟩
    obtain ⟨n₂, hn₂⟩ := (f.runs_program_iff m _).2 h₂
    exact hn₁.eq_of_finished rfl hn₂

theorem runs_iff_runs_of_compiled_echo :
    (Program.ofText "+[>,[.,]<-]".toList).loopFault? = none ∧
    ∃ (made : Compilation) (block : Block),
      Compilation.ofText ⟨true, false⟩ "+[>,[.,]<-]".toList = .ok made ∧
      Block.ofCode? made.code = some block ∧
      ∀ (C : Convention) (m : Memory C),
        (∀ o : Outcome C, (Program.ofText "+[>,[.,]<-]".toList).Runs m o ↔ block.Runs m o) ∧
        ∀ m₁ m₂ : Memory C, (Program.ofText "+[>,[.,]<-]".toList).Runs m (.finished m₁) →
          block.Runs m (.finished m₂) → m₁ = m₂ :=
  ⟨by decide, runs_iff_runs_of_compiled (by decide) ⟨true, false⟩⟩

end BrainfuckC
