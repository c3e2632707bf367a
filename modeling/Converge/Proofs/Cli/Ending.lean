import Converge.Cli.Program
import Converge.Proofs.Plan.Index
import Converge.Proofs.Text.WellFormed

/-!
This module contains how a command ends, given what it answers. Main statements: all lines of an
answer are printed if each can be written out, and otherwise the program stops with an error of its
own; a command that stops with a refusal complains of it and prints nothing.
-/

namespace Converge

open List

namespace Log.Console

@[simp]
theorem output_append (a b : Console) : (a ++ b).output = a.output ++ b.output := rfl

@[simp]
theorem errors_append (a b : Console) : (a ++ b).errors = a.errors ++ b.errors := rfl

theorem append_assoc (a b c : Console) : a ++ b ++ c = a ++ (b ++ c) := by
  change Console.mk _ _ = Console.mk _ _
  simp only [output_append, errors_append, Text.append_assoc]

theorem append_empty (a : Console) : a ++ ({} : Console) = a := by
  change Console.mk (a.output ++ Text.empty) (a.errors ++ Text.empty) = a
  rw [Text.append_empty, Text.append_empty]

theorem errors_append_output (errors output : Text) :
    ({ errors } : Console) ++ ({ output } : Console) = { output, errors } := by
  change Console.mk (Text.empty ++ output) (errors ++ Text.empty) = _
  rw [Text.empty_append, Text.append_empty]

end Log.Console

namespace Cli

variable {console : Log.Console} {answer : Answer} {lines : List Text}

/--
What is printed for lines that can be written out.
-/
def printed (lines : List Text) : Text :=
  Text.concat (lines.map (· ++ "\n"))

def Answer.isWellFormed (answer : Answer) : Bool :=
  answer.lines.all Text.isWellFormed

def Answer.errors (answer : Answer) : Text :=
  match answer.complaint? with
  | some line => errorText line ++ "\n"
  | none => .empty

theorem writeLines_of_isWellFormed (h : lines.all Text.isWellFormed = true) :
    writeLines console lines = (console ++ { output := printed lines }, true) := by
  induction lines generalizing console with
  | nil => rw [writeLines, printed, map_nil, Text.concat, console.append_empty]
  | cons line rest ih =>
    rw [all_cons, Bool.and_eq_true] at h
    rw [writeLines, if_pos h.1, ih h.2, console.append_assoc]
    rfl

theorem snd_writeLines_of_not_isWellFormed (h : lines.all Text.isWellFormed = false) :
    (writeLines console lines).2 = false := by
  induction lines generalizing console with
  | nil => cases h
  | cons line rest ih =>
    rw [all_cons, Bool.and_eq_false_iff] at h
    unfold writeLines
    split
    · next hline => exact ih (h.resolve_left (by simp [hline]))
    · rfl

/--
How a command ends after its lines were written, if they could be.
-/
def ended (answer : Answer) : Log.Console × Bool → Ending
  | (console, true) => { code := answer.code, console }
  | (console, false) => { code := 1, console, escaped? := some .unencodable }

theorem finish_eq (console : Log.Console) (answer : Answer) :
    finish console answer
      = ended answer (writeLines (console ++ { errors := answer.errors }) answer.lines) := by
  unfold finish Answer.errors
  cases answer.complaint? with
  | none =>
    exact congrArg (fun c => ended answer (writeLines c answer.lines)) console.append_empty.symm
  | some line => rfl

theorem finish_of_isWellFormed (h : answer.isWellFormed = true) :
    finish console answer = {
      code := answer.code
      console := console ++ { output := printed answer.lines, errors := answer.errors } } := by
  rw [finish_eq, writeLines_of_isWellFormed h, console.append_assoc,
    Log.Console.errors_append_output]
  rfl

theorem output_finish (hanswer : answer.isWellFormed = true) (hconsole : console.output = .empty) :
    (finish console answer).console.output = printed answer.lines := by
  rw [finish_of_isWellFormed hanswer, Log.Console.output_append, hconsole, Text.empty_append]

theorem code_finish (console : Log.Console) (answer : Answer) :
    (finish console answer).code = if answer.isWellFormed then answer.code else 1 := by
  cases h : answer.isWellFormed with
  | true => rw [finish_of_isWellFormed h, if_pos rfl]
  | false =>
    have hstopped : (writeLines (console ++ { errors := answer.errors }) answer.lines).2 = false :=
      snd_writeLines_of_not_isWellFormed h
    rw [finish_eq]
    cases hwritten : writeLines (console ++ { errors := answer.errors }) answer.lines with
    | mk console' isComplete =>
      rw [hwritten] at hstopped
      obtain rfl : isComplete = false := hstopped
      rfl

theorem output_write (level : Log.Level) (stamp : Text) (r : Log.Record) {written : Log.Console}
    (h : (Log.Logging.setup false level).write stamp r = .ok written) :
    written.output = .empty := by
  unfold Log.Logging.write Log.Logging.setup at h
  dsimp only at h
  split at h
  · cases h
    rfl
  · rw [if_neg Bool.false_ne_true] at h
    cases hplain : r.plain {} with
    | error f =>
      rw [hplain] at h
      cases h
    | ok line =>
      rw [hplain] at h
      cases h
      rfl

theorem output_writeLog (level : Log.Level) (stamp : Text) (log : List Log.Record) :
    (writeLog (Log.Logging.setup false level) stamp log).output = .empty := by
  unfold writeLog
  rw [show Text.empty = ({} : Log.Console).output from rfl]
  -- whatever has been written before
  generalize ({} : Log.Console) = console
  induction log generalizing console with
  | nil => rfl
  | cons r rest ih =>
    rw [foldl_cons, ih]
    split
    · next written hwritten =>
      rw [Log.Console.output_append, output_write level stamp r hwritten, Text.append_empty]
    · rfl

/--
What is said of the outcome of a command.
-/
def said : Except Fault Answer → Answer
  | .ok answer => answer
  | .error e => complain e

theorem exists_run {surroundings : Surroundings} (env : Config.Environment) (stamp : Text)
    {args : List Text} {invocation : Invocation} {outcome : Except Fault Answer}
    (hread : readInvocation surroundings.files args = .ok invocation)
    (houtcome : (runCommand surroundings env invocation.command { remote := () }).1 = outcome)
    (hforeign : ∀ f, outcome ≠ .error (.foreign f)) :
    ∃ log, run surroundings env stamp args
      = finish (writeLog (.setup invocation.json invocation.level) stamp log) (said outcome) := by
  unfold run
  rw [hread]
  dsimp only
  cases hcommand : runCommand surroundings env invocation.command { remote := () } with
  | mk result world =>
    rw [hcommand] at houtcome
    obtain rfl : result = outcome := houtcome
    refine ⟨world.log, ?_⟩
    cases result with
    | ok answer => rfl
    | error e =>
      cases e with
      | foreign f => exact absurd rfl (hforeign f)
      | _ => rfl

/--
That a command ends with nothing but a complaint about a fault.
-/
structure Complains (ending : Ending) (e : Fault) : Prop where
  code : ending.code = 1
  output : ending.console.output = .empty
  escaped? : ending.escaped? = none
  -- what stands before it is the log
  errors : ∃ logged, ending.console.errors = logged ++ (errorText ("Error: " ++ e.message) ++ "\n")

theorem complains_finish (level : Log.Level) (stamp : Text) (log : List Log.Record) (e : Fault) :
    Complains (finish (writeLog (.setup false level) stamp log) (complain e)) e := by
  rw [finish_of_isWellFormed rfl]
  constructor
  · rfl
  · rw [Log.Console.output_append, output_writeLog]
    rfl
  · rfl
  · exact ⟨_, rfl⟩

end Cli

end Converge
