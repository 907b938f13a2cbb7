import BrainfuckC.Proofs.Bracket.Verdict
import BrainfuckC.Proofs.List
import BrainfuckC.Session

/-!
# What a session remembers

A session is asked to compile and to change its options, in any order. Behind
every history of such commands its instructions are those of the last text, and
its trace is that of the last text that was compiled, so the two may belong to
different texts (`state_of_history`). What is replied does not depend on the
history: it is what a fresh session with the same options replies.

`calls` keeps of a history what matters to this, the texts with the options that
were in force.
-/

namespace BrainfuckC

namespace Session

/-- What may be asked of a session. -/
inductive Command where
  | setStrict (on : Bool)
  | setTrace (on : Bool)
  | compile (preface source : Text)

/-- The session behind a command. -/
def perform (s : Session) : Command → Session
  | .setStrict on => s.setOptions { s.options with strict := on }
  | .setTrace on => s.setOptions { s.options with trace := on }
  | .compile preface source => (s.compile preface source).2

/-- The session behind a history of commands. -/
def run (s : Session) (history : List Command) : Session := history.foldl perform s

theorem run_cons (s : Session) (c : Command) (history : List Command) :
    s.run (c :: history) = (s.perform c).run history := rfl

/-- What is replied to the request to compile a text: its code, or what is wrong
with it. -/
def reply (s : Session) (preface source : Text) : Except Diagnostic Text :=
  (s.compile preface source).1.mapError (·.diagnostic source)

/-- A request to compile a text, with the options that are in force. -/
structure Call where
  options : Options
  preface : Text
  source : Text

/-- The requests of a history that begins with the options `o`. -/
def calls (o : Options) : List Command → List Call
  | [] => []
  | .setStrict on :: history => calls { o with strict := on } history
  | .setTrace on :: history => calls { o with trace := on } history
  | .compile preface source :: history => ⟨o, preface, source⟩ :: calls o history

/-- A fresh session with the same options replies with code. -/
def Call.succeeds (c : Call) : Bool := ((fresh c.options).reply c.preface c.source).isOk

/-! ## One request -/

section Request

variable (s : Session) (preface : Text) {source : Text}

theorem compile_of_refusal {fault : LoopFault}
    (h : (Program.ofText source).refusal? s.options = some fault) :
    s.compile preface source = (.error fault, { s with program := .ofText source }) := by
  rw [compile, Compilation.ofTextWith_of_refusal h]

theorem compile_of_no_refusal (h : (Program.ofText source).refusal? s.options = none) :
    s.compile preface source =
      (.ok ((Program.ofText source).render preface),
        { s with program := .ofText source
                 trace := (Program.ofText source).keptTrace s.options }) := by
  rw [compile, Compilation.ofTextWith_of_no_refusal h]

theorem reply_of_refusal {fault : LoopFault}
    (h : (Program.ofText source).refusal? s.options = some fault) :
    s.reply preface source = .error (fault.diagnostic source) := by
  rw [reply, compile_of_refusal s preface h]
  rfl

theorem reply_of_no_refusal (h : (Program.ofText source).refusal? s.options = none) :
    s.reply preface source = .ok ((Program.ofText source).render preface) := by
  rw [reply, compile_of_no_refusal s preface h]
  rfl

end Request

/-- The reply depends on the session through its options alone. -/
theorem reply_eq_fresh (s : Session) (preface source : Text) :
    s.reply preface source = (fresh s.options).reply preface source := by
  cases h : (Program.ofText source).refusal? s.options with
  | none => rw [reply_of_no_refusal s preface h, reply_of_no_refusal (fresh s.options) preface h]
  | some fault => rw [reply_of_refusal s preface h, reply_of_refusal (fresh s.options) preface h]

/-- A text that is refused leaves the trace that was there. -/
theorem trace_compile (s : Session) (preface source : Text) :
    (s.compile preface source).2.trace =
      if Call.succeeds ⟨s.options, preface, source⟩ then
        (Program.ofText source).keptTrace s.options
      else s.trace := by
  cases h : (Program.ofText source).refusal? s.options with
  | none =>
    rw [compile_of_no_refusal s preface h, Call.succeeds,
      reply_of_no_refusal (fresh s.options) preface h]
    rfl
  | some fault =>
    rw [compile_of_refusal s preface h, Call.succeeds,
      reply_of_refusal (fresh s.options) preface h]
    rfl

theorem trace_compile_of_error {s : Session} {preface source : Text} {d : Diagnostic}
    (h : s.reply preface source = .error d) : (s.compile preface source).2.trace = s.trace := by
  rw [trace_compile, Call.succeeds, ← reply_eq_fresh, h]
  rfl

/-! ## Histories -/

def Command.strict? : Command → Option Bool
  | setStrict on => some on
  | _ => none

def Command.trace? : Command → Option Bool
  | setTrace on => some on
  | _ => none

theorem strict_perform (s : Session) (c : Command) :
    (s.perform c).options.strict = c.strict?.getD s.options.strict := by
  cases c with
  | compile preface source => exact congrArg Options.strict (options_compile s preface source)
  | setStrict _ => rfl
  | setTrace _ => rfl

theorem trace_options_perform (s : Session) (c : Command) :
    (s.perform c).options.trace = c.trace?.getD s.options.trace := by
  cases c with
  | compile preface source => exact congrArg Options.trace (options_compile s preface source)
  | setStrict _ => rfl
  | setTrace _ => rfl

theorem options_run (s : Session) (history : List Command) :
    (s.run history).options =
      ⟨(history.filterMap Command.strict?).getLastD s.options.strict,
        (history.filterMap Command.trace?).getLastD s.options.trace⟩ :=
  congrArg₂ Options.mk (foldl_eq_getLastD_set (·.options.strict) strict_perform s history)
    (foldl_eq_getLastD_set (·.options.trace) trace_options_perform s history)

theorem program_run (s : Session) (history : List Command) :
    (s.run history).program =
      ((calls s.options history).map fun c => Program.ofText c.source).getLastD s.program := by
  induction history generalizing s with
  | nil => rfl
  | cons c history ih =>
    rw [run_cons, ih]
    cases c with
    | setStrict on => rfl
    | setTrace on => rfl
    | compile preface source =>
      rw [perform, options_compile, program_compile, calls, List.map_cons, List.getLastD_cons]

theorem trace_run (s : Session) (history : List Command) :
    (s.run history).trace =
      (((calls s.options history).filter Call.succeeds).map fun c =>
        (Program.ofText c.source).keptTrace c.options).getLastD s.trace := by
  induction history generalizing s with
  | nil => rfl
  | cons c history ih =>
    rw [run_cons, ih]
    cases c with
    | setStrict on => rfl
    | setTrace on => rfl
    | compile preface source =>
      rw [perform, options_compile, trace_compile, calls]
      by_cases h : Call.succeeds ⟨s.options, preface, source⟩
      · rw [if_pos h, List.filter_cons_of_pos h, List.map_cons, List.getLastD_cons]
      · rw [if_neg h, List.filter_cons_of_neg h]

theorem reply_strict_eq_ok_iff (trace : Bool) (preface source : Text) :
    (fresh ⟨true, trace⟩).reply preface source = .ok ((Program.ofText source).render preface) ↔
      Balanced (Program.ofText source).brackets := by
  rw [← Program.loopFault?_eq_none_iff]
  cases h : (Program.ofText source).loopFault? with
  | none => exact iff_of_true (reply_of_no_refusal (fresh ⟨true, trace⟩) preface h) rfl
  | some fault => simp [reply_of_refusal (fresh ⟨true, trace⟩) preface h]

theorem exists_reply_strict_eq_error_iff (trace : Bool) (preface source : Text) :
    (∃ d, (fresh ⟨true, trace⟩).reply preface source = .error d) ↔
      ¬ Balanced (Program.ofText source).brackets := by
  rw [← Program.loopFault?_eq_none_iff]
  cases h : (Program.ofText source).loopFault? with
  | none => simp [reply_of_no_refusal (fresh ⟨true, trace⟩) preface h]
  | some fault =>
    exact iff_of_true ⟨_, reply_of_refusal (fresh ⟨true, trace⟩) preface h⟩ nofun

/-- The state of a session behind any history, and its replies.

The options are those that were set last. The instructions are those of the last
text, and there are none before the first. The trace is that of the last text to
which the reply was its code, if a trace was asked for then. So a refused text
leaves its instructions and the trace that was there.

A reply is that of a fresh session with the options that are in force. If it is
code, this depends on the preface and the text alone. Without the check it is
code, and with it exactly if the loops are balanced. -/
theorem state_of_history (o : Options) (history : List Command) :
    let s := (fresh o).run history
    s.options = ⟨(history.filterMap Command.strict?).getLastD o.strict,
      (history.filterMap Command.trace?).getLastD o.trace⟩ ∧
    s.program = ((calls o history).map fun c => Program.ofText c.source).getLastD [] ∧
    s.trace = (((calls o history).filter Call.succeeds).map fun c =>
      if c.options.trace then (Program.ofText c.source).trace Program.startDepth
      else []).getLastD [] ∧
    ∀ preface source,
      s.reply preface source = (fresh s.options).reply preface source ∧
      (∀ d, s.reply preface source = .error d →
        (s.perform (.compile preface source)).program = .ofText source ∧
        (s.perform (.compile preface source)).trace = s.trace) ∧
      ∃ code, ∀ trace,
        (fresh ⟨false, trace⟩).reply preface source = .ok code ∧
        ((fresh ⟨true, trace⟩).reply preface source = .ok code ↔
          Balanced (Program.ofText source).brackets) ∧
        ((∃ d, (fresh ⟨true, trace⟩).reply preface source = .error d) ↔
          ¬ Balanced (Program.ofText source).brackets) := by
  intro s
  refine ⟨options_run _ history, program_run _ history, trace_run _ history, ?_⟩
  intro preface source
  refine ⟨reply_eq_fresh s preface source, ?_, (Program.ofText source).render preface, ?_⟩
  · intro d hd
    exact ⟨program_compile s preface source, trace_compile_of_error hd⟩
  · intro trace
    exact ⟨reply_of_no_refusal (fresh ⟨false, trace⟩) preface rfl,
      reply_strict_eq_ok_iff trace preface source,
      exists_reply_strict_eq_error_iff trace preface source⟩

/-- A text is refused after another one was compiled, so the instructions are those
of the second and the trace is that of the first. -/
theorem state_of_history_refused :
    let history : List Command := [.compile [] "[".toList, .setStrict true, .setTrace true,
      .compile [] "+".toList, .compile [] " ]".toList]
    let s := (fresh ⟨false, false⟩).run history
    s = ⟨⟨true, true⟩, [⟨.loopEnd, ⟨1, 2⟩⟩], ["1:1 + depth=1".toList]⟩ ∧
    s.reply [] ['['] = .error ⟨"Unclosed '['".toList, ['['], ⟨1, 1⟩⟩ ∧
    (s.perform (.compile [] ['['])).program = .ofText ['['] ∧
    (s.perform (.compile [] ['['])).trace = s.trace := by
  intro history s
  have herror : s.reply [] ['['] = .error ⟨"Unclosed '['".toList, ['['], ⟨1, 1⟩⟩ := rfl
  obtain ⟨-, -, -, hreply⟩ := state_of_history ⟨false, false⟩ history
  exact ⟨by decide, herror, (hreply [] ['[']).2.1 _ herror⟩

end Session

end BrainfuckC
