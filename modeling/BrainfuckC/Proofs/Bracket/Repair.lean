import BrainfuckC.Proofs.Bracket.Opened
import BrainfuckC.Proofs.Location.Line
import Mathlib.Logic.Function.Iterate

/-!
# Repairing a source

A bracket that closes nothing is mended by taking it out, and one that nothing
closes by a bracket at the end of the source. The loop check reports one fault at
a time. Each repair pairs one bracket more or has one bracket less without a
partner, so as many repairs are needed as there are such brackets, and no fault
is made that was not there before.

How many brackets of a text have no partner is said without the check, by pairing
each closing bracket with the innermost one that is open. What stands in front of
a cut matters to the rest only by how many brackets are open there
(`length_unpairedFrom_append`).
-/

namespace BrainfuckC

namespace Text

/-- The brackets without a partner, by their places, in a text that has `n`
characters before it and the open brackets at `opened`, the innermost one
first. -/
def unpairedFrom (opened : List Nat) (n : Nat) : Text → List Nat
  | [] => opened.reverse
  | c :: t =>
    if c = '[' then unpairedFrom (n :: opened) (n + 1) t
    else if c = ']' then
      match opened with
      | [] => n :: unpairedFrom [] (n + 1) t
      | _ :: outer => unpairedFrom outer (n + 1) t
    else unpairedFrom opened (n + 1) t

/-- The places of the brackets of a text that have no partner, where each closing
bracket is the partner of the innermost open one. -/
def unpaired (t : Text) : List Nat := unpairedFrom [] 0 t

@[simp] theorem unpairedFrom_nil (opened : List Nat) (n : Nat) :
    unpairedFrom opened n [] = opened.reverse := rfl

theorem unpairedFrom_begin_cons (opened : List Nat) (n : Nat) (t : Text) :
    unpairedFrom opened n ('[' :: t) = unpairedFrom (n :: opened) (n + 1) t := by
  simp [unpairedFrom]

theorem unpairedFrom_end_cons_nil (n : Nat) (t : Text) :
    unpairedFrom [] n (']' :: t) = n :: unpairedFrom [] (n + 1) t := by
  simp [unpairedFrom]

theorem unpairedFrom_end_cons_cons (b : Nat) (opened : List Nat) (n : Nat) (t : Text) :
    unpairedFrom (b :: opened) n (']' :: t) = unpairedFrom opened (n + 1) t := by
  simp [unpairedFrom]

theorem unpairedFrom_cons_of_ne {c : Char} (hb : c ≠ '[') (he : c ≠ ']') (opened : List Nat)
    (n : Nat) (t : Text) :
    unpairedFrom opened n (c :: t) = unpairedFrom opened (n + 1) t := by
  simp [unpairedFrom, hb, he]

/-- How many brackets have no partner does not depend on where the brackets
stand. -/
theorem length_unpairedFrom_congr {opened opened' : List Nat}
    (h : opened.length = opened'.length) (n n' : Nat) (t : Text) :
    (unpairedFrom opened n t).length = (unpairedFrom opened' n' t).length := by
  induction t generalizing opened opened' n n' with
  | nil => simpa using h
  | cons c t ih =>
    by_cases hb : c = '['
    · subst hb
      rw [unpairedFrom_begin_cons, unpairedFrom_begin_cons]
      exact ih (by simpa using h) _ _
    · by_cases he : c = ']'
      · subst he
        cases opened with
        | nil =>
          obtain rfl := List.length_eq_zero_iff.1 h.symm
          rw [unpairedFrom_end_cons_nil, unpairedFrom_end_cons_nil, List.length_cons,
            List.length_cons, ih rfl]
        | cons b outer =>
          cases opened' with
          | nil => cases h
          | cons b' outer' =>
            rw [unpairedFrom_end_cons_cons, unpairedFrom_end_cons_cons]
            exact ih (by simpa using h) _ _
      · rw [unpairedFrom_cons_of_ne hb he, unpairedFrom_cons_of_ne hb he]
        exact ih h _ _

end Text

open Text

namespace Program

theorem openedBehind?_scanFrom_begin (opened : List Location) (l : Location) (t : Text) :
    openedBehind? opened (scanFrom l ('[' :: t)) =
      openedBehind? (l :: opened) (scanFrom (l.next '[') t) := rfl

theorem openedBehind?_scanFrom_end_nil (l : Location) (t : Text) :
    openedBehind? [] (scanFrom l (']' :: t)) = none := rfl

theorem openedBehind?_scanFrom_end_cons (b : Location) (opened : List Location) (l : Location)
    (t : Text) :
    openedBehind? (b :: opened) (scanFrom l (']' :: t)) =
      openedBehind? opened (scanFrom (l.next ']') t) := rfl

theorem openedBehind?_scanFrom_of_ne {c : Char} (hb : c ≠ '[') (he : c ≠ ']')
    (opened : List Location) (l : Location) (t : Text) :
    openedBehind? opened (scanFrom l (c :: t)) = openedBehind? opened (scanFrom (l.next c) t) := by
  cases hc : Op.ofChar? c with
  | none => rw [scanFrom_cons_of_none hc]
  | some o =>
    obtain rfl := Op.ofChar?_eq_some_iff.1 hc
    rw [scanFrom_cons_of_some hc]
    rcases o.bracket_cases with rfl | rfl | ho
    · exact absurd rfl hb
    · exact absurd rfl he
    · exact openedBehind?_cons_of_not_bracket ho _ _ _

end Program

namespace Text

/-- What stands in front of a cut matters to the brackets behind it only by how
many are open there, and for these the check has the same number. -/
theorem length_unpairedFrom_append {opened inner : List Location} {l : Location} {s : Text}
    (h : Program.openedBehind? opened (Program.scanFrom l s) = some inner)
    {places rest : List Nat} (hplaces : places.length = opened.length)
    (hrest : rest.length = inner.length) (n n' : Nat) (t : Text) :
    (unpairedFrom places n (s ++ t)).length = (unpairedFrom rest n' t).length := by
  induction s generalizing opened l places n with
  | nil =>
    obtain rfl : opened = inner := Option.some.inj h
    exact length_unpairedFrom_congr (hplaces.trans hrest.symm) _ _ _
  | cons c s ih =>
    rw [List.cons_append]
    by_cases hb : c = '['
    · subst hb
      rw [Program.openedBehind?_scanFrom_begin] at h
      rw [unpairedFrom_begin_cons]
      exact ih h (by simpa using hplaces) _
    · by_cases he : c = ']'
      · subst he
        cases opened with
        | nil =>
          rw [Program.openedBehind?_scanFrom_end_nil] at h
          cases h
        | cons b outer =>
          cases places with
          | nil => cases hplaces
          | cons place places =>
            rw [Program.openedBehind?_scanFrom_end_cons] at h
            rw [unpairedFrom_end_cons_cons]
            exact ih h (by simpa using hplaces) _
      · rw [Program.openedBehind?_scanFrom_of_ne hb he] at h
        rw [unpairedFrom_cons_of_ne hb he]
        exact ih h hplaces _

end Text

/-- A source with a fault mended: a bracket that closes nothing is taken out, and
for one that nothing closes a bracket is put at the end. -/
def LoopFault.mend (f : LoopFault) (s : Text) : Text :=
  match f.kind with
  | .unmatched => s.eraseAt f.location
  | .unclosed => s ++ [']']

/-- One repair, if the loop check has anything to say. -/
def Text.repair (s : Text) : Text :=
  match (Program.ofText s).loopFault? with
  | none => s
  | some f => f.mend s

namespace Text

theorem repair_of_accepted {s : Text} (h : (Program.ofText s).loopFault? = none) :
    s.repair = s := by
  rw [repair, h]

theorem repair_of_fault {s : Text} {f : LoopFault} (h : (Program.ofText s).loopFault? = some f) :
    s.repair = f.mend s := by
  rw [repair, h]

/-- An unmatched bracket stands where it is reported, and all brackets before it
have partners. -/
theorem exists_eq_append_of_unmatched {s : Text} {l : Location}
    (h : (Program.ofText s).loopFault? = some ⟨.unmatched, l⟩) :
    ∃ before after : Text, s = before ++ ']' :: after ∧ Location.start.advance before = l ∧
      Program.openedBehind? [] (Program.ofText before) = some [] := by
  obtain ⟨p, q, hpq, hopen, hcount⟩ := Program.eq_append_of_unmatchedIn h
  obtain ⟨before, after, rfl, hbefore, hl⟩ := Program.exists_eq_append_of_scanFrom_eq hpq
  refine ⟨before, after, rfl, hl, Program.openedBehind?_of_loopFaultIn?_eq_none ?_⟩
  exact (Program.loopFault?_eq_none_iff_occurrences _).2
    (by rw [Program.ofText, hbefore]; exact ⟨hopen, hcount.symm⟩)

theorem charAt?_of_unmatched {s : Text} {l : Location}
    (h : (Program.ofText s).loopFault? = some ⟨.unmatched, l⟩) : s.charAt? l = some ']' := by
  obtain ⟨before, after, rfl, rfl, -⟩ := exists_eq_append_of_unmatched h
  exact charAt?_advance (by decide) before after

theorem length_unpaired_of_accepted {s : Text} (h : (Program.ofText s).loopFault? = none) :
    s.unpaired.length = 0 := by
  have hopen := Program.openedBehind?_of_loopFaultIn?_eq_none h
  have hall : (unpaired (s ++ [])).length = (unpairedFrom [] 0 []).length :=
    length_unpairedFrom_append hopen rfl rfl 0 0 []
  rwa [List.append_nil] at hall

/-- A repair leaves one bracket less without a partner. -/
theorem length_unpaired_mend {s : Text} {f : LoopFault}
    (h : (Program.ofText s).loopFault? = some f) :
    (f.mend s).unpaired.length + 1 = s.unpaired.length := by
  rcases f with ⟨kind, l⟩
  cases kind with
  | unmatched =>
    obtain ⟨before, after, rfl, rfl, hopen⟩ := exists_eq_append_of_unmatched h
    have hrest (t : Text) : (unpaired (before ++ t)).length = (unpairedFrom [] 0 t).length :=
      length_unpairedFrom_append hopen rfl rfl 0 0 t
    rw [LoopFault.mend, eraseAt_advance (by decide), hrest, hrest, unpairedFrom_end_cons_nil,
      List.length_cons, length_unpairedFrom_congr rfl 1 0]
  | unclosed =>
    obtain ⟨outer, hopen⟩ := Program.exists_openedBehind?_of_unclosed h
    have hrest (t : Text) : (unpaired (s ++ t)).length =
        (unpairedFrom (List.replicate (outer.length + 1) 0) 0 t).length :=
      length_unpairedFrom_append hopen rfl (by simp) 0 0 t
    have hs := hrest []
    rw [List.append_nil] at hs
    rw [LoopFault.mend, hrest, hs, List.replicate_succ, unpairedFrom_end_cons_cons]
    simp

/-- Only what is refused has a bracket without a partner. -/
theorem length_unpaired_repair (s : Text) :
    s.repair.unpaired.length = s.unpaired.length - 1 := by
  cases h : (Program.ofText s).loopFault? with
  | none => rw [repair_of_accepted h, length_unpaired_of_accepted h]
  | some f => rw [repair_of_fault h, ← length_unpaired_mend h, Nat.add_sub_cancel]

theorem loopFault?_eq_none_iff_unpaired (s : Text) :
    (Program.ofText s).loopFault? = none ↔ s.unpaired.length = 0 := by
  constructor
  · exact length_unpaired_of_accepted
  · intro h
    cases hf : (Program.ofText s).loopFault? with
    | none => rfl
    | some f =>
      have hmend := length_unpaired_mend hf
      omega

theorem length_unpaired_iterate_repair (n : Nat) (s : Text) :
    (repair^[n] s).unpaired.length = s.unpaired.length - n := by
  induction n generalizing s with
  | zero => rfl
  | succ n ih =>
    rw [Function.iterate_succ_apply, ih, length_unpaired_repair, Nat.sub_sub, Nat.add_comm]

/-- A bracket at the end closes the innermost of the loops that are left open. -/
theorem loopFault?_concat_end {s : Text} {l : Location} {outer : List Location}
    (h : Program.openedBehind? [] (Program.ofText s) = some (l :: outer)) :
    (Program.ofText (s ++ [']'])).loopFault? = outer.head?.map (⟨.unclosed, ·⟩) := by
  have hprogram : Program.ofText (s ++ [']']) =
      Program.ofText s ++ [Instruction.mk .loopEnd (Location.start.advance s)] :=
    Program.scanFrom_append .start s [']']
  rw [hprogram, Program.loopFault?, Program.loopFaultIn?_append_of_openedBehind? h,
    Program.loopFaultIn?_loopEnd_cons]
  rfl

/-- No closing bracket of a source is one too many. -/
def NoneUnmatched (s : Text) : Prop :=
  ∀ l, (Program.ofText s).loopFault? ≠ some ⟨.unmatched, l⟩

theorem NoneUnmatched.repair {s : Text} (h : s.NoneUnmatched) : s.repair.NoneUnmatched := by
  cases hf : (Program.ofText s).loopFault? with
  | none => rwa [repair_of_accepted hf]
  | some f =>
    rcases f with ⟨kind, l⟩
    cases kind with
    | unmatched => exact absurd hf (h l)
    | unclosed =>
      intro m
      obtain ⟨outer, hopen⟩ := Program.exists_openedBehind?_of_unclosed hf
      rw [repair_of_fault hf, LoopFault.mend, loopFault?_concat_end hopen]
      cases outer <;> simp

theorem NoneUnmatched.iterate_repair {s : Text} (h : s.NoneUnmatched) (n : Nat) :
    (Text.repair^[n] s).NoneUnmatched := by
  induction n with
  | zero => exact h
  | succ n ih =>
    rw [Function.iterate_succ_apply']
    exact ih.repair

end Text

/-- Following the hints repairs every source. Where the check refuses one, an
unmatched bracket is reported at the place of a closing bracket, and the repair
leaves one bracket less without a partner. Once an unclosed bracket has been
reported, no unmatched one is from there on. So a source is accepted after as
many repairs as it has brackets without a partner, and not before. -/
theorem repair_accepts_after_unpaired (s : Text) :
    (∀ f, (Program.ofText s).loopFault? = some f →
      (f.kind = .unmatched → s.charAt? f.location = some ']') ∧
      (f.mend s).unpaired.length + 1 = s.unpaired.length) ∧
    (∀ (n m : Nat) (l l' : Location), n ≤ m →
      (Program.ofText (Text.repair^[n] s)).loopFault? = some ⟨.unclosed, l⟩ →
      (Program.ofText (Text.repair^[m] s)).loopFault? ≠ some ⟨.unmatched, l'⟩) ∧
    ∀ n : Nat, (Program.ofText (Text.repair^[n] s)).loopFault? = none ↔
      s.unpaired.length ≤ n := by
  refine ⟨?_, ?_, ?_⟩
  · intro f hf
    refine ⟨?_, Text.length_unpaired_mend hf⟩
    rcases f with ⟨kind, l⟩
    rintro rfl
    exact Text.charAt?_of_unmatched hf
  · intro n m l l' hnm hunclosed
    obtain ⟨k, rfl⟩ := Nat.exists_eq_add_of_le hnm
    have hnone : (Text.repair^[n] s).NoneUnmatched := by
      intro m
      rw [hunclosed]
      simp
    rw [Nat.add_comm, Function.iterate_add_apply]
    exact hnone.iterate_repair k l'
  · intro n
    rw [Text.loopFault?_eq_none_iff_unpaired, Text.length_unpaired_iterate_repair]
    omega

/-- The first bracket is taken out, and the second one is closed at the end. -/
theorem repair_accepts_after_unpaired_mixed :
    let s : Text := "]+[\n[]".toList
    ((Program.ofText s).loopFault? = some ⟨.unmatched, ⟨1, 1⟩⟩ ∧
      s.charAt? ⟨1, 1⟩ = some ']' ∧
      (LoopFault.mend ⟨.unmatched, ⟨1, 1⟩⟩ s).unpaired.length + 1 = s.unpaired.length) ∧
    ((Program.ofText (Text.repair^[1] s)).loopFault? = some ⟨.unclosed, ⟨1, 2⟩⟩ ∧
      (Program.ofText (Text.repair^[2] s)).loopFault? ≠ some ⟨.unmatched, ⟨1, 2⟩⟩) ∧
    ∀ n : Nat, (Program.ofText (Text.repair^[n] s)).loopFault? = none ↔
      s.unpaired.length ≤ n := by
  intro s
  have hunmatched : (Program.ofText s).loopFault? = some ⟨.unmatched, ⟨1, 1⟩⟩ := by decide
  have hunclosed : (Program.ofText (Text.repair^[1] s)).loopFault? =
      some ⟨.unclosed, ⟨1, 2⟩⟩ := by decide
  obtain ⟨hmend, hlater, haccepted⟩ := repair_accepts_after_unpaired s
  obtain ⟨hchar, hlength⟩ := hmend _ hunmatched
  exact ⟨⟨hunmatched, hchar rfl, hlength⟩,
    ⟨hunclosed, hlater 1 2 _ _ (by decide) hunclosed⟩, haccepted⟩

end BrainfuckC
