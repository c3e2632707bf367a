import Converge.Proofs.Log
import Converge.Verify

/-!
This module contains what convergences and checks write to the log. Main statement: all their
records are of the loggers of the engine, whatever a client answers and a signal says.
-/

namespace Converge

open List

def engineLoggers : List Text :=
  ["logsync.sync", "logsync.differ", "logsync.verifier"]

def Log.Record.IsEngine (r : Log.Record) : Prop :=
  r.logger ∈ engineLoggers

namespace Sync

variable {σ : Type}

theorem isEngine_record (level : Log.Level) (message : Text) (extra : List (Text × Value)) :
    (record level message extra).IsEngine :=
  mem_cons_self

theorem isEngine_diffRecord (wanted : List Declared) (current : List Stored)
    (changes : List Change) : (diffRecord wanted current changes).IsEngine :=
  mem_cons_of_mem _ mem_cons_self

theorem logs_call (client : Client σ) (r : Request) :
    (Run.call client r).Logs Log.Record.IsEngine :=
  .call client fun _ => mem_cons_self

theorem logs_diff (desired : List Declared) (listing : Option (List Stored)) :
    (diff desired listing : Run σ _).Logs Log.Record.IsEngine := by
  unfold diff
  apply (Run.Logs.lift _).bind
  intro wanted
  cases listing with
  | none => exact .fail _
  | some observed =>
    apply (Run.Logs.lift _).bind
    intro changes
    exact (Run.Logs.log (isEngine_diffRecord _ _ _)).bind fun _ => .pure _

theorem logs_plan (client : Client σ) (serviceId : Text) (desired : List Declared) :
    (plan client serviceId desired).Logs Log.Record.IsEngine := by
  unfold plan
  apply (logs_call client _).bind
  intro active
  apply (logs_call client _).bind
  intro listing
  exact (logs_diff desired listing).bind fun _ => .pure _

theorem logs_applyChange (client : Client σ) (serviceId : Text) (version : Int) (c : Change) :
    (applyChange client serviceId version c).Logs Log.Record.IsEngine := by
  cases c with
  | delete r => exact logs_call client _
  | create d => exact (Run.Logs.lift _).bind fun _ => (logs_call client _).bind fun _ => .pure _
  | update d r fields =>
    exact (Run.Logs.lift _).bind fun _ => (logs_call client _).bind fun _ => .pure _

theorem logs_applyAll (client : Client σ) (signal? : Option (Signal σ)) (serviceId : Text)
    (applied : Nat) (draft : Version) (changes : List Change) :
    (applyAll client signal? serviceId applied draft changes).Logs Log.Record.IsEngine := by
  induction changes generalizing applied draft with
  | nil => exact .pure _
  | cons c rest ih =>
    unfold applyAll
    apply (Run.Logs.poll signal? _).bind
    intro answer
    cases answer with
    | true => exact (Run.Logs.log (isEngine_record _ _ _)).bind fun _ => .fail_bind _ _
    | false =>
      apply (Run.Logs.lift _).bind
      intro _
      apply (Run.Logs.log (isEngine_record _ _ _)).bind
      intro _
      apply (logs_applyChange client serviceId draft.number c).bind
      intro _
      exact (Run.Logs.lift _).bind fun draft => ih (applied + 1) draft

theorem logs_applyPlan (client : Client σ) (signal? : Option (Signal σ)) (drift : Drift) :
    (applyPlan client signal? drift).Logs Log.Record.IsEngine := by
  unfold applyPlan
  apply (Run.Logs.poll signal? _).bind
  intro answer
  cases answer with
  | true => exact (Run.Logs.log (isEngine_record _ _ _)).bind fun _ => .fail_bind _ _
  | false =>
    apply (logs_call client _).bind
    intro cloned
    apply (Run.Logs.log (isEngine_record _ _ _)).bind
    intro _
    apply (logs_applyAll client signal? drift.serviceId 0 _ drift.changes).bind
    intro draft
    apply (Run.Logs.poll signal? _).bind
    intro answer
    cases answer with
    | true => exact .fail_bind _ _
    | false =>
      apply (logs_call client _).bind
      intro _
      apply (Run.Logs.lift _).bind
      intro draft
      exact (Run.Logs.log (isEngine_record _ _ _)).bind fun _ => .pure _

theorem logs_checkLimit (serviceId : Text) (count : Int) (limit? : Option Int) :
    (checkLimit serviceId count limit? : Run σ Unit).Logs Log.Record.IsEngine := by
  unfold checkLimit
  cases limit? with
  | none => exact .pure ()
  | some limit =>
    dsimp only
    split
    · exact (Run.Logs.log (isEngine_record _ _ _)).bind fun _ => .fail _
    · exact .pure ()

theorem logs_run (client : Client σ) (serviceId : Text) (desired : List Declared)
    (signal? : Option (Signal σ)) (limit? : Option Int) :
    (run client serviceId desired signal? limit?).Logs Log.Record.IsEngine := by
  unfold run
  apply (logs_plan client serviceId desired).bind
  intro drift
  apply (logs_checkLimit serviceId _ limit?).bind
  intro _
  unfold carryOut
  split
  · exact (Run.Logs.log (isEngine_record _ _ _)).bind fun _ => .pure _
  · exact logs_applyPlan client signal? drift

end Sync

namespace Verify

variable {σ : Type}

theorem isEngine_record (level : Log.Level) (message : Text) (serviceId : Text) (version : Int)
    (extra : List (Text × Value)) : (record level message serviceId version extra).IsEngine :=
  mem_cons_of_mem _ (mem_cons_of_mem _ mem_cons_self)

theorem logs_run (client : Client σ) (serviceId : Text) (version : Int) (desired : List Declared) :
    (run client serviceId version desired).Logs Log.Record.IsEngine := by
  unfold run
  apply (Run.Logs.lift _).bind
  intro expected
  apply (Sync.logs_call client _).bind
  intro listing
  apply (Sync.logs_diff desired listing).bind
  intro changes
  dsimp only
  split
  · exact (Run.Logs.log (isEngine_record _ _ _ _ _)).bind fun _ => .fail _
  · split
    · exact (Run.Logs.log (isEngine_record _ _ _ _ _)).bind fun _ => .fail _
    · exact .log (isEngine_record _ _ _ _ _)

end Verify

end Converge
