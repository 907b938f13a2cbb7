import BrainfuckC.Emission

/-!
# Emitters

An emitter is what stays between two emissions: the depth, the trace and whether
traces are kept. `generate` starts afresh, so nothing but the last of the three
is handed on to it; what it leaves behind can be read from the emitter
afterwards, also when a foreign symbol stopped it.
-/

namespace BrainfuckC

/-- The state between two emissions. -/
structure Emitter where
  depth : Int
  trace : List Text
  tracing : Bool
  deriving DecidableEq

namespace Emitter

def fresh (tracing : Bool) : Emitter := ⟨Program.startDepth, [], tracing⟩

def reset (e : Emitter) : Emitter := fresh e.tracing

def setDepth (e : Emitter) (d : Int) : Emitter := { e with depth := d }

def setTracing (e : Emitter) (on : Bool) : Emitter := { e with tracing := on }

def record (e : Emitter) (ls : List Text) : Emitter :=
  if e.tracing then { e with trace := e.trace ++ ls } else e

def indent (e : Emitter) (line : Text) : Text := Code.indented e.depth line

/-- What is said of an emission behind a preface: the whole C text, or the
foreign symbol at which it stopped. -/
def outcome (preface : Text) (emission : Emission) : Except Text Text :=
  match emission.foreign? with
  | some symbol => .error symbol
  | none => .ok (preface ++ emission.code ++ Code.closing)

/-- Emits a listing behind a preface, starting afresh. The emitter is given back
as the emission leaves it, wherever that has stopped. -/
def generate (e : Emitter) (preface : Text) (es : Listing) : Except Text Text × Emitter :=
  let emission := es.emit e.reset.depth
  (outcome preface emission, (e.reset.record emission.trace).setDepth emission.depth)

@[simp] theorem tracing_reset (e : Emitter) : e.reset.tracing = e.tracing := rfl

@[simp] theorem tracing_setDepth (e : Emitter) (d : Int) :
    (e.setDepth d).tracing = e.tracing := rfl

@[simp] theorem tracing_record (e : Emitter) (ls : List Text) :
    (e.record ls).tracing = e.tracing := by
  unfold record
  split <;> rfl

theorem trace_record (e : Emitter) (ls : List Text) :
    (e.record ls).trace = e.trace ++ if e.tracing then ls else [] := by
  unfold record
  split
  · rfl
  · exact (List.append_nil _).symm

theorem tracing_generate (e : Emitter) (preface : Text) (es : Listing) :
    (e.generate preface es).2.tracing = e.tracing := by
  simp [generate]

theorem generate_ofProgram (e : Emitter) (preface : Text) (p : Program) :
    (e.generate preface (.ofProgram p)).1 = .ok (p.render preface) := by
  simp [generate, outcome, Listing.emit_ofProgram, reset, fresh, Program.render]

theorem trace_generate_ofProgram (e : Emitter) (preface : Text) (p : Program) :
    (e.generate preface (.ofProgram p)).2.trace =
      if e.tracing then p.trace Program.startDepth else [] := by
  rw [generate, Listing.emit_ofProgram]
  exact trace_record e.reset _

end Emitter

end BrainfuckC
