import BrainfuckC.LoopFault

/-!
# Balanced brackets

The brackets of a program are its `loopBegin` and `loopEnd`, with everything
else left out. `Balanced` is the language that they should belong to, given by
its grammar: nothing, or a balanced word in brackets and a balanced word behind
it.

A program is read inside of loops that are open already, so the language is
needed with `n` brackets in front that wait to be closed. `Closes n w` says that
`w` is what remains of a balanced word after them: `n + 1` balanced words with a
`loopEnd` between any two. Its laws follow the first bracket of `w`, as a reader
does, and never mention where the grammar would cut.
-/

namespace BrainfuckC

namespace Op

def isBracket : Op → Bool
  | loopBegin => true
  | loopEnd => true
  | _ => false

theorem bracket_cases (o : Op) : o = loopBegin ∨ o = loopEnd ∨ o.isBracket = false := by
  cases o <;> simp [isBracket]

theorem ne_loopBegin_of_not_bracket {o : Op} (h : o.isBracket = false) : o ≠ loopBegin := by
  rintro rfl
  exact absurd h (by decide)

theorem ne_loopEnd_of_not_bracket {o : Op} (h : o.isBracket = false) : o ≠ loopEnd := by
  rintro rfl
  exact absurd h (by decide)

end Op

/-- The words of brackets in which every bracket has its partner: the grammar
`B ::= empty | loopBegin B loopEnd B`. -/
inductive Balanced : List Op → Prop where
  | nil : Balanced []
  | loop {u v : List Op} : Balanced u → Balanced v →
      Balanced (.loopBegin :: (u ++ .loopEnd :: v))

theorem not_balanced_loopEnd_cons (w : List Op) : ¬ Balanced (.loopEnd :: w) := by
  intro h
  cases h

theorem Balanced.count_eq {w : List Op} (h : Balanced w) :
    w.count .loopBegin = w.count .loopEnd := by
  induction h with
  | nil => rfl
  | loop hu hv ihu ihv =>
    simp only [List.count_cons, List.count_append, ihu, ihv]
    simp
    omega

/-- The words that close `n` open loops, one after the other, and are balanced
in between and behind. -/
def Closes : Nat → List Op → Prop
  | 0, w => Balanced w
  | n + 1, w => ∃ u v, w = u ++ .loopEnd :: v ∧ Balanced u ∧ Closes n v

theorem closes_nil_iff (n : Nat) : Closes n [] ↔ n = 0 := by
  cases n with
  | zero => exact iff_of_true .nil rfl
  | succ n => simp [Closes]

/-- A `loopBegin` opens one loop more for what follows. -/
theorem closes_loopBegin_cons_iff (n : Nat) (w : List Op) :
    Closes n (.loopBegin :: w) ↔ Closes (n + 1) w := by
  cases n with
  | zero =>
    constructor
    · intro h
      cases h with
      | loop hu hv => exact ⟨_, _, rfl, hu, hv⟩
    · rintro ⟨u, v, rfl, hu, hv⟩
      exact .loop hu hv
  | succ n =>
    constructor
    · rintro ⟨u, v, hw, hu, hv⟩
      cases hu with
      | nil => simp at hw
      | loop hs ht =>
        rename_i s t
        have hw' : w = s ++ .loopEnd :: (t ++ .loopEnd :: v) := by simpa using hw
        exact ⟨s, t ++ .loopEnd :: v, hw', hs, t, v, rfl, ht, hv⟩
    · rintro ⟨s, w', rfl, hs, t, v, rfl, ht, hv⟩
      exact ⟨.loopBegin :: (s ++ .loopEnd :: t), v, by simp, .loop hs ht, hv⟩

theorem closes_loopEnd_cons_iff (n : Nat) (w : List Op) :
    Closes (n + 1) (.loopEnd :: w) ↔ Closes n w := by
  constructor
  · rintro ⟨u, v, hw, hu, hv⟩
    cases hu with
    | nil =>
      have hvw : w = v := by simpa using hw
      rwa [hvw]
    | loop hs ht => simp at hw
  · intro h
    exact ⟨[], w, rfl, .nil, h⟩

namespace Program

def brackets (p : Program) : List Op := (p.map Instruction.op).filter Op.isBracket

def occurrences (o : Op) (p : Program) : Nat := (p.map Instruction.op).count o

@[simp] theorem brackets_nil : brackets [] = [] := rfl

@[simp] theorem brackets_append (p q : Program) :
    brackets (p ++ q) = p.brackets ++ q.brackets := by
  simp [brackets]

@[simp] theorem brackets_loopBegin_cons (l : Location) (p : Program) :
    brackets (⟨.loopBegin, l⟩ :: p) = .loopBegin :: p.brackets := rfl

@[simp] theorem brackets_loopEnd_cons (l : Location) (p : Program) :
    brackets (⟨.loopEnd, l⟩ :: p) = .loopEnd :: p.brackets := rfl

theorem brackets_cons_of_not_bracket {o : Op} (h : o.isBracket = false) (l : Location)
    (p : Program) : brackets (⟨o, l⟩ :: p) = p.brackets := by
  simp [brackets, h]

/-- The first bracket is an instruction with nothing but simple ones before
it. -/
theorem eq_append_of_brackets_eq_cons {p : Program} {o : Op} {w : List Op}
    (h : p.brackets = o :: w) :
    ∃ (q : Program) (l : Location) (r : Program), p = q ++ ⟨o, l⟩ :: r ∧
      q.brackets = [] ∧ r.brackets = w := by
  induction p with
  | nil => cases h
  | cons i p ih =>
    rcases i with ⟨a, l⟩
    rcases a.bracket_cases with rfl | rfl | ha
    · rcases List.cons.inj h with ⟨rfl, rfl⟩
      exact ⟨[], l, p, rfl, rfl, rfl⟩
    · rcases List.cons.inj h with ⟨rfl, rfl⟩
      exact ⟨[], l, p, rfl, rfl, rfl⟩
    · rw [brackets_cons_of_not_bracket ha] at h
      obtain ⟨q, m, r, rfl, hq, hr⟩ := ih h
      refine ⟨⟨a, l⟩ :: q, m, r, rfl, ?_, hr⟩
      rw [brackets_cons_of_not_bracket ha, hq]

theorem eq_append_of_brackets_eq_append {p : Program} {u w : List Op}
    (h : p.brackets = u ++ w) :
    ∃ q r : Program, p = q ++ r ∧ q.brackets = u ∧ r.brackets = w := by
  rcases List.filter_eq_append_iff.1 h with ⟨a, b, hab, rfl, rfl⟩
  rcases List.map_eq_append_iff.1 hab with ⟨q, r, rfl, rfl, rfl⟩
  exact ⟨q, r, rfl, rfl, rfl⟩

@[simp] theorem occurrences_nil (o : Op) : occurrences o [] = 0 := rfl

theorem occurrences_cons (o : Op) (i : Instruction) (p : Program) :
    occurrences o (i :: p) = p.occurrences o + if i.op = o then 1 else 0 := by
  simp [occurrences, List.count_cons]

@[simp] theorem occurrences_append (o : Op) (p q : Program) :
    occurrences o (p ++ q) = p.occurrences o + q.occurrences o := by
  simp [occurrences]

theorem count_brackets {o : Op} (h : o.isBracket = true) (p : Program) :
    p.brackets.count o = p.occurrences o :=
  List.count_filter h

theorem occurrences_eq_of_balanced {p : Program} (h : Balanced p.brackets) :
    p.occurrences .loopBegin = p.occurrences .loopEnd := by
  rw [← count_brackets rfl, ← count_brackets rfl]
  exact h.count_eq

/-- More loops end in a program than begin in it. -/
def Overclosed (p : Program) : Prop :=
  p.occurrences .loopBegin < p.occurrences .loopEnd

instance (p : Program) : Decidable p.Overclosed := inferInstanceAs (Decidable (_ < _))

/-- Behind `n` open loops, no part of a program from its beginning on closes
more loops than are open. -/
def StaysOpen (n : Nat) (p : Program) : Prop :=
  ∀ q : Program, q <+: p → q.occurrences .loopEnd ≤ q.occurrences .loopBegin + n

theorem staysOpen_nil (n : Nat) : StaysOpen n [] := by
  intro q hq
  rw [List.prefix_nil.1 hq]
  exact Nat.zero_le _

theorem staysOpen_cons_iff (n : Nat) (i : Instruction) (p : Program) :
    StaysOpen n (i :: p) ↔ ∀ q : Program, q <+: p →
      occurrences .loopEnd (i :: q) ≤ occurrences .loopBegin (i :: q) + n := by
  constructor
  · intro h q hq
    exact h (i :: q) (List.cons_prefix_cons.2 ⟨rfl, hq⟩)
  · intro h q hq
    rcases List.prefix_cons_iff.1 hq with rfl | ⟨t, rfl, ht⟩
    · exact Nat.zero_le _
    · exact h t ht

theorem staysOpen_loopBegin_cons_iff (n : Nat) (l : Location) (p : Program) :
    StaysOpen n (⟨.loopBegin, l⟩ :: p) ↔ StaysOpen (n + 1) p := by
  rw [staysOpen_cons_iff]
  apply forall_congr'
  intro q
  apply imp_congr_right
  intro hq
  simp [occurrences_cons]
  omega

theorem staysOpen_loopEnd_cons_iff (n : Nat) (l : Location) (p : Program) :
    StaysOpen (n + 1) (⟨.loopEnd, l⟩ :: p) ↔ StaysOpen n p := by
  rw [staysOpen_cons_iff]
  apply forall_congr'
  intro q
  apply imp_congr_right
  intro hq
  simp [occurrences_cons]
  omega

theorem not_staysOpen_loopEnd_cons (l : Location) (p : Program) :
    ¬ StaysOpen 0 (⟨.loopEnd, l⟩ :: p) := by
  rw [staysOpen_cons_iff]
  intro h
  simpa [occurrences_cons] using h [] List.nil_prefix

theorem staysOpen_cons_iff_of_not_bracket {o : Op} (h : o.isBracket = false) (n : Nat)
    (l : Location) (p : Program) : StaysOpen n (⟨o, l⟩ :: p) ↔ StaysOpen n p := by
  rw [staysOpen_cons_iff]
  apply forall_congr'
  intro q
  apply imp_congr_right
  intro hq
  simp [occurrences_cons, Op.ne_loopBegin_of_not_bracket h, Op.ne_loopEnd_of_not_bracket h]

end Program

end BrainfuckC
