import BrainfuckC.Proofs.Emission.Line
import BrainfuckC.Proofs.List

/-!
# What an emitter keeps

An emitter may have been used in any way before: for other emissions, also for
such as were stopped at a foreign symbol, and its depth, its trace and whether it
keeps traces may have been changed in between. The next emission knows nothing of
all this but whether traces are kept now (`generate_after_history`).

A foreign symbol stops an emission in the middle, and what is behind the symbol
does not matter. That is seen from the law for listings that begin with known
instructions: these act on what follows through their depth alone
(`Listing.emit_ofProgram_append`).
-/

namespace BrainfuckC

namespace Listing

/-- What known instructions emit, the rest of the listing goes on with at the
depth behind them. -/
theorem emit_ofProgram_append (d : Int) (p : Program) (es : Listing) :
    emit d (ofProgram p ++ es) =
      { emit (p.depthBehind d) es with
        code := p.code d ++ (emit (p.depthBehind d) es).code
        trace := p.trace d ++ (emit (p.depthBehind d) es).trace } := by
  induction p generalizing d with
  | nil => rfl
  | cons i p ih =>
    have hcons : ofProgram (i :: p) ++ es = .known i :: (ofProgram p ++ es) := rfl
    rw [hcons, emit, ih]
    simp

/-- A listing without foreign symbols is a program. -/
theorem eq_ofProgram_of_known {es : Listing} (h : ∀ entry ∈ es, ∃ i, entry = .known i) :
    es = ofProgram es.program := by
  induction es with
  | nil => rfl
  | cons entry es ih =>
    rw [List.forall_mem_cons] at h
    obtain ⟨⟨i, rfl⟩, hes⟩ := h
    exact congrArg (.known i :: ·) (ih hes)

theorem eq_append_foreign {es : Listing} {k : Nat} {symbol : Text} {l : Location}
    (hk : es[k]? = some (.foreign symbol l)) (h : ∀ entry ∈ es.take k, ∃ i, entry = .known i) :
    ∃ (p : Program) (rest : Listing), es.take k = ofProgram p ∧
      es = ofProgram p ++ .foreign symbol l :: rest := by
  have htake := eq_ofProgram_of_known h
  refine ⟨program (es.take k), es.drop (k + 1), htake, ?_⟩
  rw [← htake]
  exact eq_take_append_cons_drop hk

end Listing

namespace Emitter

/-- A foreign symbol stops the emission where the instructions before it have
led. -/
theorem generate_ofProgram_append_foreign (e : Emitter) (preface : Text) (p : Program)
    (symbol : Text) (l : Location) (rest : Listing) :
    e.generate preface (.ofProgram p ++ .foreign symbol l :: rest) =
      (.error symbol, (e.generate preface (.ofProgram p)).2) := by
  simp only [generate, Listing.emit_ofProgram_append, Listing.emit_ofProgram,
    Listing.emit_foreign, List.append_nil]
  rfl

/-- What may be asked of an emitter. -/
inductive Command where
  | generate (preface : Text) (es : Listing)
  | indent (line : Text)
  | setDepth (d : Int)
  | setTracing (on : Bool)
  | record (line : Text)
  | reset
  | clearCopy

/-- The emitter behind a command. Only a line is given back by `indent`, and the
copy that is cleared is the caller's. -/
def perform (e : Emitter) : Command → Emitter
  | .generate preface es => (e.generate preface es).2
  | .indent _ => e
  | .setDepth d => e.setDepth d
  | .setTracing on => e.setTracing on
  | .record line => e.record [line]
  | .reset => e.reset
  | .clearCopy => e

/-- The emitter behind a history of commands. -/
def run (e : Emitter) (history : List Command) : Emitter := history.foldl perform e

/-- What a command says about the keeping of traces, if anything. -/
def Command.tracing? : Command → Option Bool
  | setTracing on => some on
  | _ => none

theorem tracing_perform (e : Emitter) (c : Command) :
    (e.perform c).tracing = c.tracing?.getD e.tracing := by
  cases c with
  | generate preface es => exact tracing_generate e preface es
  | record line => exact tracing_record e [line]
  | indent _ => rfl
  | setDepth _ => rfl
  | setTracing _ => rfl
  | reset => rfl
  | clearCopy => rfl

/-- Traces are kept if the last command that spoke of it said so. -/
theorem tracing_run (e : Emitter) (history : List Command) :
    (e.run history).tracing = (history.filterMap Command.tracing?).getLastD e.tracing :=
  foldl_eq_getLastD_set Emitter.tracing tracing_perform e history

theorem trace_perform_of_not_tracing {e : Emitter} (h : e.tracing = false) (c : Command) :
    (e.perform c).trace = e.trace ∨ (e.perform c).trace = [] := by
  cases c with
  | generate preface es =>
    right
    have htrace : (e.perform (.generate preface es)).trace =
        (e.reset.record (es.emit e.reset.depth).trace).trace := rfl
    rw [htrace, trace_record, tracing_reset, h]
    rfl
  | record line =>
    left
    have htrace : (e.perform (.record line)).trace = (e.record [line]).trace := rfl
    rw [htrace, trace_record, h]
    exact List.append_nil _
  | reset => exact .inr rfl
  | indent _ => exact .inl rfl
  | setDepth _ => exact .inl rfl
  | setTracing _ => exact .inl rfl
  | clearCopy => exact .inl rfl

/-- Whatever an emitter has been used for, an emission is that of a fresh one that
keeps traces or does not, as was said last.

At the first foreign symbol the emission fails with this symbol, whatever is
behind it, and leaves what the emission of the instructions before it would
leave. Without one it does not fail, and leaves the depth that the beginnings and
the ends of loops add up to. None but the command for it changes whether traces
are kept, `indent` and the clearing of a copy change nothing, and as long as
traces are not kept, nothing is added to the one that is there. -/
theorem generate_after_history (tracing : Bool) (history : List Command) (preface : Text)
    (es : Listing) :
    let e := (fresh tracing).run history
    e.tracing = (history.filterMap Command.tracing?).getLastD tracing ∧
    e.generate preface es = (fresh e.tracing).generate preface es ∧
    (∀ k symbol l, es[k]? = some (.foreign symbol l) →
      (∀ entry ∈ es.take k, ∃ i, entry = .known i) →
      e.generate preface es = (.error symbol, (e.generate preface (es.take k)).2)) ∧
    ((∀ entry ∈ es, ∃ i, entry = .known i) →
      (e.generate preface es).1 = .ok (es.program.render preface) ∧
      (e.generate preface es).2.depth =
        1 + es.program.occurrences .loopBegin - es.program.occurrences .loopEnd) ∧
    (∀ c, (∀ on, c ≠ .setTracing on) → (e.perform c).tracing = e.tracing) ∧
    (∀ line, e.perform (.indent line) = e) ∧
    e.perform .clearCopy = e ∧
    ∀ c, e.tracing = false → (e.perform c).trace = e.trace ∨ (e.perform c).trace = [] := by
  intro e
  refine ⟨tracing_run _ history, rfl, ?_, ?_, ?_, fun _ => rfl, rfl,
    fun c h => trace_perform_of_not_tracing h c⟩
  · intro k symbol l hk hbefore
    obtain ⟨p, rest, htake, hes⟩ := Listing.eq_append_foreign hk hbefore
    rw [htake, hes]
    exact generate_ofProgram_append_foreign e preface p symbol l rest
  · intro hknown
    obtain ⟨p, hp⟩ : ∃ p, es.program = p := ⟨_, rfl⟩
    rw [Listing.eq_ofProgram_of_known hknown, hp, Listing.program_ofProgram,
      depth_generate_ofProgram, Program.depthBehind_eq]
    exact ⟨generate_ofProgram e preface p, rfl⟩
  · intro c hc
    rw [tracing_perform]
    cases c with
    | setTracing on => exact absurd rfl (hc on)
    | _ => rfl

/-- An emission was stopped, the depth was changed and a line recorded. Of all this
nothing is left in the next emission, which is stopped as well. -/
theorem generate_after_history_stopped :
    let history : List Command := [.setTracing true,
      .generate [] [.known ⟨.loopEnd, ⟨1, 1⟩⟩, .foreign ['x'] ⟨1, 2⟩], .setDepth (-7),
      .record ['!']]
    let es : Listing := [.known ⟨.loopBegin, ⟨2, 1⟩⟩, .foreign ['y'] ⟨2, 2⟩,
      .known ⟨.loopEnd, ⟨2, 3⟩⟩]
    let e := (fresh false).run history
    e = ⟨-7, ["1:1 ] depth=0".toList, ['!']], true⟩ ∧
    es[1]? = some (.foreign ['y'] ⟨2, 2⟩) ∧ (∀ entry ∈ es.take 1, ∃ i, entry = .known i) ∧
    e.generate [] es = (.error ['y'], (e.generate [] (es.take 1)).2) ∧
    (e.generate [] (es.take 1)).2 = ⟨2, ["2:1 [ depth=1".toList], true⟩ := by
  intro history es e
  have hknown : ∀ entry ∈ es.take 1, ∃ i, entry = .known i := by simp [es]
  obtain ⟨-, -, hforeign, -⟩ := generate_after_history false history [] es
  exact ⟨by decide, by decide, hknown, hforeign 1 ['y'] ⟨2, 2⟩ rfl hknown, by decide⟩

end Emitter

end BrainfuckC
