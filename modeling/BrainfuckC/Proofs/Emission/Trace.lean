import BrainfuckC.Compilation
import BrainfuckC.Emitter

/-!
# Reading programs off the trace

A line of the trace says which instruction it was recorded for. No numeral holds a
blank or a colon, and no symbol is a blank, so the line falls into its parts where
these stand, also if a number is negative and its hyphen looks like the symbol of a
`decrement`. Each line is read by itself, and the depth at its end is passed over.

So a trace is recorded for one program only (`Program.ofTrace_trace`), and two
sources with the same trace are the same to the rest of the compilation
(`trace_eq_iff_program_eq`).
-/

namespace BrainfuckC

namespace Decimal

/-- The number that a numeral is written for. -/
def value : Text → Int
  | '-' :: t => -Nat.ofDigitChars 10 t 0
  | t => Nat.ofDigitChars 10 t 0

theorem value_ofNat (n : Nat) : value (ofNat n) = n := by
  have hdigits : value (ofNat n) = Nat.ofDigitChars 10 (ofNat n) 0 := by
    rw [value]
    rintro t ht
    have hsign : '-' ∈ ofNat n := ht ▸ List.mem_cons_self
    exact absurd (isDigit_of_mem_ofNat hsign) (by decide)
  rw [hdigits, ofNat, Nat.ofDigitChars_ten_toDigits]

/-- Numerals of different numbers differ, whatever their signs. -/
theorem value_ofInt (n : Int) : value (ofInt n) = n := by
  cases n with
  | ofNat n => exact value_ofNat n
  | negSucc n =>
    rw [ofInt, value, ofNat, Nat.ofDigitChars_ten_toDigits]
    rfl

theorem not_mem_ofInt {c : Char} (hsign : c ≠ '-') (hdigit : c.isDigit = false) (n : Int) :
    c ∉ ofInt n := by
  intro h
  rcases isDigit_of_mem_ofInt h with hc | hc
  · exact hsign hc
  · exact absurd hc (Bool.eq_false_iff.1 hdigit)

end Decimal

theorem Location.blank_not_mem_render (l : Location) : ' ' ∉ l.render := by
  rw [render, List.mem_append, List.mem_cons, not_or, not_or]
  exact ⟨Decimal.not_mem_ofInt (by decide) rfl _, by decide,
    Decimal.not_mem_ofInt (by decide) rfl _⟩

theorem Location.splitOn_render (l : Location) :
    l.render.splitOn ':' = [Decimal.ofInt l.line, Decimal.ofInt l.column] := by
  rw [render, Text.splitOn_append_cons (Decimal.not_mem_ofInt (by decide) rfl _),
    Text.splitOn_of_not_mem (Decimal.not_mem_ofInt (by decide) rfl _)]

theorem Op.symbol_ne_blank (o : Op) : o.symbol ≠ ' ' := by
  cases o <;> decide

namespace Instruction

/-- The instruction that a line of the trace was recorded for. -/
def ofTraceLine? (t : Text) : Option Instruction :=
  match t.splitOn ' ' with
  | [place, [symbol], _] =>
    match place.splitOn ':' with
    | [line, column] =>
      (Op.ofChar? symbol).map fun o => ⟨o, ⟨Decimal.value line, Decimal.value column⟩⟩
    | _ => none
  | _ => none

theorem splitOn_traceLine (d : Int) (i : Instruction) :
    (i.traceLine d).splitOn ' ' =
      [i.location.render, [i.op.symbol], "depth=".toList ++ Decimal.ofInt (i.op.depthAt d)] := by
  have hline : i.traceLine d = i.location.render ++
      ' ' :: ([i.op.symbol] ++ ' ' :: ("depth=".toList ++ Decimal.ofInt (i.op.depthAt d))) := by
    rw [traceLine, List.append_assoc]
    rfl
  have hsymbol : ' ' ∉ [i.op.symbol] := by
    rw [List.mem_singleton]
    exact i.op.symbol_ne_blank.symm
  have hdepth : ' ' ∉ "depth=".toList ++ Decimal.ofInt (i.op.depthAt d) := by
    rw [List.mem_append, not_or]
    exact ⟨by decide, Decimal.not_mem_ofInt (by decide) rfl _⟩
  rw [hline, Text.splitOn_append_cons i.location.blank_not_mem_render,
    Text.splitOn_append_cons hsymbol, Text.splitOn_of_not_mem hdepth]

/-- Every line is read back, at whatever depth it was recorded. -/
theorem ofTraceLine?_traceLine (d : Int) (i : Instruction) :
    ofTraceLine? (i.traceLine d) = some i := by
  rw [ofTraceLine?, splitOn_traceLine]
  dsimp only
  rw [i.location.splitOn_render]
  dsimp only
  rw [Op.ofChar?_symbol, Option.map_some, Decimal.value_ofInt, Decimal.value_ofInt]

end Instruction

namespace Program

/-- The program that a trace was recorded for. -/
def ofTrace (lines : List Text) : Program := lines.filterMap Instruction.ofTraceLine?

theorem ofTrace_trace (d : Int) (p : Program) : ofTrace (p.trace d) = p := by
  induction p generalizing d with
  | nil => rfl
  | cons i p ih =>
    rw [trace_cons, ofTrace, List.filterMap_cons_some (i.ofTraceLine?_traceLine d)]
    exact congrArg (i :: ·) (ih _)

/-- The depths from which two programs are emitted need not be known to be the same. -/
theorem eq_of_trace_eq {d d' : Int} {p q : Program} (h : p.trace d = q.trace d') : p = q := by
  rw [← ofTrace_trace d p, h, ofTrace_trace]

end Program

/-- A compilation sees no more of its source than the program. -/
theorem Compilation.ofText_congr {s t : Text} (h : Program.ofText s = Program.ofText t)
    (o : Options) : ofText o s = ofText o t := by
  rw [ofText, ofText, ofTextWith, ofTextWith, h]

/-- The trace identifies the program.

Two emitters that keep traces record the same trace for two programs if and only if
these are the same, instruction for instruction and with the same locations, which may
be any integers. Every source has a trace, and two sources with the same trace have the
same instructions and the same code. Whatever is asked of their compilations, these have
the same outcome: if the loop check refuses one of the sources it refuses the other as
well, for the same reason and at the same location. -/
theorem trace_eq_iff_program_eq :
    (∀ (preface preface' : Text) (p q : Program) (e e' : Emitter),
      e.tracing = true → e'.tracing = true →
      ((e.generate preface (.ofProgram p)).2.trace =
        (e'.generate preface' (.ofProgram q)).2.trace ↔ p = q)) ∧
    (∀ s : Text, ∃ made, Compilation.ofText ⟨false, true⟩ s = .ok made) ∧
    ∀ (strict strict' : Bool) (s t : Text) (made made' : Compilation),
      Compilation.ofText ⟨strict, true⟩ s = .ok made →
      Compilation.ofText ⟨strict', true⟩ t = .ok made' → made.trace = made'.trace →
      made.program = made'.program ∧ made.code = made'.code ∧
        ∀ o, Compilation.ofText o s = Compilation.ofText o t := by
  refine ⟨?_, ?_, ?_⟩
  · intro preface preface' p q e e' he he'
    rw [Emitter.trace_generate_ofProgram, Emitter.trace_generate_ofProgram, if_pos he, if_pos he']
    constructor
    · exact Program.eq_of_trace_eq
    · rintro rfl
      rfl
  · intro s
    exact ⟨_, Compilation.ofText_eq_ok_iff.2 ⟨Program.refusal?_lenient true _, rfl⟩⟩
  · intro strict strict' s t made made' hs ht htrace
    obtain ⟨-, rfl⟩ := Compilation.ofText_eq_ok_iff.1 hs
    obtain ⟨-, rfl⟩ := Compilation.ofText_eq_ok_iff.1 ht
    have hprogram : Program.ofText s = Program.ofText t := Program.eq_of_trace_eq htrace
    exact ⟨hprogram, congrArg (Program.render Code.preface) hprogram,
      Compilation.ofText_congr hprogram⟩

/-- A hyphen in front of a number is not the symbol of an instruction. Comments of the
same length leave no mark on the trace, and both sources are refused at the same
bracket. -/
theorem trace_eq_iff_program_eq_signed :
    let p : Program := [⟨.decrement, ⟨-1, -12⟩⟩, ⟨.loopEnd, ⟨0, 3⟩⟩]
    let q : Program := [⟨.decrement, ⟨-11, -2⟩⟩, ⟨.loopEnd, ⟨0, 3⟩⟩]
    let s : Text := "- é[".toList
    let t : Text := "-\r [".toList
    ((Emitter.fresh true).generate [] (.ofProgram p)).2.trace =
      ["-1:-12 - depth=1".toList, "0:3 ] depth=0".toList] ∧
    ((Emitter.fresh true).generate [] (.ofProgram p)).2.trace ≠
      ((Emitter.fresh true).generate [] (.ofProgram q)).2.trace ∧
    s ≠ t ∧ ∃ made made', Compilation.ofText ⟨false, true⟩ s = .ok made ∧
      Compilation.ofText ⟨false, true⟩ t = .ok made' ∧ made.trace = made'.trace ∧
      made.code = made'.code ∧
      Compilation.ofText ⟨true, true⟩ s = .error ⟨.unclosed, ⟨1, 4⟩⟩ ∧
      Compilation.ofText ⟨true, true⟩ s = Compilation.ofText ⟨true, true⟩ t := by
  intro p q s t
  obtain ⟨htrace, htotal, hsources⟩ := trace_eq_iff_program_eq
  obtain ⟨made, hmade⟩ := htotal s
  obtain ⟨made', hmade'⟩ := htotal t
  have hsame : made.trace = made'.trace := by
    obtain ⟨-, rfl⟩ := Compilation.ofText_eq_ok_iff.1 hmade
    obtain ⟨-, rfl⟩ := Compilation.ofText_eq_ok_iff.1 hmade'
    decide
  obtain ⟨-, hcode, halike⟩ := hsources false false s t made made' hmade hmade' hsame
  have hpq : p ≠ q := by decide
  exact ⟨by decide, mt (htrace [] [] p q _ _ rfl rfl).1 hpq, by decide, made, made', hmade,
    hmade', hsame, hcode, rfl, halike _⟩

end BrainfuckC
