import BrainfuckC.Proofs.Bracket.Verdict

/-!
# Locations as names

To the loop check a location is a name and nothing more. Where all locations are
changed in the same way, the fault is the same one at its new location
(`loopFault?_relocate`).

So two programs of the same operations have the same verdict: both are the
numbered program of these operations, whose locations say nothing but how many
instructions there are before, with other locations put in. The fault of the
numbered one says which instruction is at fault in either of them
(`loopFault?_of_map_op_eq`).
-/

namespace BrainfuckC

def Instruction.relocate (g : Location → Location) (i : Instruction) : Instruction :=
  ⟨i.op, g i.location⟩

/-- The operation that is at fault. -/
def LoopFault.Kind.op : LoopFault.Kind → Op
  | unmatched => .loopEnd
  | unclosed => .loopBegin

def LoopFault.relocate (g : Location → Location) (f : LoopFault) : LoopFault :=
  ⟨f.kind, g f.location⟩

namespace Program

/-- The same instructions at other locations. -/
def relocate (g : Location → Location) (p : Program) : Program :=
  p.map (Instruction.relocate g)

theorem map_op_relocate (g : Location → Location) (p : Program) :
    (p.relocate g).map Instruction.op = p.map Instruction.op := by
  rw [relocate, List.map_map]
  rfl

theorem loopFaultIn?_relocate (g : Location → Location) (opened : List Location) (p : Program) :
    loopFaultIn? (opened.map g) (p.relocate g) = (loopFaultIn? opened p).map (·.relocate g) := by
  have hcons (o : Op) (l : Location) (p : Program) :
      relocate g (⟨o, l⟩ :: p) = ⟨o, g l⟩ :: relocate g p := rfl
  induction opened, p using induction_inside with
  | nil opened => cases opened <;> rfl
  | loopBegin opened l p ih =>
    rw [hcons, loopFaultIn?_loopBegin, loopFaultIn?_loopBegin, ← ih, List.map_cons]
  | loopEnd_nil l p => rfl
  | loopEnd_cons b opened l p ih =>
    rw [hcons, List.map_cons, loopFaultIn?_loopEnd_cons, loopFaultIn?_loopEnd_cons, ih]
  | other opened o l p ho ih =>
    rw [hcons, loopFaultIn?_cons_of_not_bracket ho, loopFaultIn?_cons_of_not_bracket ho, ih]

theorem loopFault?_relocate (g : Location → Location) (p : Program) :
    loopFault? (p.relocate g) = p.loopFault?.map (·.relocate g) :=
  loopFaultIn?_relocate g [] p

/-- What is at fault is an instruction of the program. -/
theorem mem_of_loopFault? {p : Program} {f : LoopFault} (h : p.loopFault? = some f) :
    ⟨f.kind.op, f.location⟩ ∈ p := by
  rcases f with ⟨kind, l⟩
  cases kind with
  | unmatched =>
    obtain ⟨before, after, rfl, -, -⟩ := eq_append_of_unmatchedIn h
    exact List.mem_append_right before List.mem_cons_self
  | unclosed =>
    obtain ⟨before, after, rfl, -⟩ := eq_append_of_unclosed h
    exact List.mem_append_right before List.mem_cons_self

/-- The program of the given operations in which the column of an instruction is
the number of those before it. -/
def numbered (ops : List Op) : Program := ops.mapIdx fun n o => ⟨o, ⟨0, n⟩⟩

/-- The location that an instruction of `p` has instead of its number. -/
def locationOf (p : Program) (l : Location) : Location :=
  ((p[l.column.toNat]?).map Instruction.location).getD l

theorem relocate_numbered (p : Program) :
    (numbered (p.map Instruction.op)).relocate p.locationOf = p := by
  apply List.ext_getElem
  · simp [numbered, relocate]
  · intro n h₁ h₂
    simp [numbered, relocate, Instruction.relocate, locationOf, h₂]

end Program

/-- A fault stands at the instruction that has `n` instructions before it. -/
def LoopFault.IsAt (f : LoopFault) (p : Program) (n : Nat) : Prop :=
  (p[n]?).map Instruction.location = some f.location

namespace Program

theorem loopFault?_eq_map_numbered (p : Program) :
    p.loopFault? =
      (numbered (p.map Instruction.op)).loopFault?.map (·.relocate p.locationOf) := by
  rw [← loopFault?_relocate, relocate_numbered]

/-- The fault of the numbered program tells the number of the instruction at
fault. -/
theorem exists_isAt_of_numbered {p : Program} {f : LoopFault}
    (h : (numbered (p.map Instruction.op)).loopFault? = some f) :
    (f.relocate p.locationOf).IsAt p f.location.column.toNat := by
  obtain ⟨n, hn, hget⟩ := List.mem_iff_getElem.1 (mem_of_loopFault? h)
  have hlength : n < p.length := by simpa [numbered] using hn
  have hlocation : f.location = ⟨0, n⟩ := by
    simpa [numbered] using (congrArg Instruction.location hget).symm
  have hcolumn : f.location.column.toNat = n := by rw [hlocation, Int.toNat_natCast]
  simp [LoopFault.IsAt, LoopFault.relocate, locationOf, hcolumn, hlength]

/-- The same operations are accepted or not wherever they stand, and the same
instruction is at fault. -/
theorem loopFault?_of_map_op_eq {p q : Program}
    (h : p.map Instruction.op = q.map Instruction.op) :
    (p.loopFault? = none ↔ q.loopFault? = none) ∧
      ∀ f, p.loopFault? = some f →
        ∃ g n, q.loopFault? = some g ∧ g.kind = f.kind ∧ f.IsAt p n ∧ g.IsAt q n := by
  have hp := p.loopFault?_eq_map_numbered
  have hq := q.loopFault?_eq_map_numbered
  rw [← h] at hq
  constructor
  · rw [hp, hq, Option.map_eq_none_iff, Option.map_eq_none_iff]
  · intro f hf
    rw [hp, Option.map_eq_some_iff] at hf
    obtain ⟨f₀, hf₀, rfl⟩ := hf
    refine ⟨f₀.relocate q.locationOf, f₀.location.column.toNat, ?_, rfl,
      exists_isAt_of_numbered hf₀, exists_isAt_of_numbered ?_⟩
    · rw [hq, hf₀, Option.map_some]
    · rw [← h, hf₀]

end Program

end BrainfuckC
