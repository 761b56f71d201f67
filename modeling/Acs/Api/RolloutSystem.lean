/-
A rollout among the processes that work off its jobs.

In `Acs/Api/Rollout.lean` what the jobs of a rollout have come to is decided by the
environment.  Here it is what their rows in the queue say, and beside the requests of the
operators every statement of the queue may be executed: the handlers of the gateway, of
the USP controller and of the reaper consist of nothing else.
-/
import Acs.Api.Rollout

namespace Acs

namespace RolloutWorld

variable (w : RolloutWorld)

/-- The status of a job.  One that is not there is joined with no device. -/
def jobStatus (id : String) : Status :=
  ((w.queue.jobs.find id).map (·.status)).getD .queued

/-- The devices whose job is SUCCESS. -/
def successful : List String :=
  w.devices.withStatus w.jobStatus [.success]

end RolloutWorld

/-- A statement of a request, or one of those that work off the queue. -/
inductive FleetStmt where
  | rollout (s : RolloutStmt)
  | queue (s : Stmt)

def FleetStmt.Res : FleetStmt → Type
  | .rollout s => s.Res
  | .queue s => s.Res

def FleetStmt.exec : (s : FleetStmt) → RolloutChoice → RolloutWorld → s.Res × RolloutWorld
  | .rollout s, c, w => s.exec { c with jobStatus := w.jobStatus } w
  | .queue s, c, w =>
    ((Acs.exec s c.queue w.queue).1, { w with queue := (Acs.exec s c.queue w.queue).2 })

open FleetStmt

inductive FleetTask where
  | rollout (t : RolloutTask)
  | queue (s : Stmt)

/-- A request among the statements of the fleet. -/
def RolloutTask.fleetProg (t : RolloutTask) : Prog Res Unit :=
  t.prog.lift rollout fun _ r => r

def FleetTask.prog : FleetTask → Prog Res Unit
  | .rollout t => t.fleetProg
  | .queue s => do
    let _ ← Prog.perform (FleetStmt.queue s)
    return ()

abbrev FleetAction := Pool.Action FleetTask RolloutChoice
abbrev FleetEvent := Pool.Event Res RolloutWorld

/-- A run from a rollout as it is found. -/
def fleetRun (as : List FleetAction) (w : RolloutWorld) :
    List FleetEvent × Pool Res RolloutWorld :=
  Pool.run FleetStmt.exec FleetTask.prog as ⟨w, []⟩

end Acs
