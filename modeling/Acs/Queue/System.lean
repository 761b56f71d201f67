/-
The job queue as a system of concurrent handlers.

A task is one thing that happens to the system: a request of a device, a message of
an agent, a wake-up of a worker.  A run starts tasks and lets them take turns, one
statement at a time, from an empty queue; every interleaving of any number of
handlers of the three processes is a run.
-/
import Acs.Gateway.Session
import Acs.Uspc.Dispatcher
import Acs.Lib.Pool

namespace Acs

inductive Task where
  /-- An operator or a plan queues a job. -/
  | create (spec : JobSpec) (payload : Payload)
  | queueDiscovery (ids : String × String) (deviceID : String) (cache : DeviceCache)
  | inform (env : GatewayEnv) (deviceID sessionID : String) (events : List EventStruct)
  | post (env : GatewayEnv) (sessionID : String) (body : InboundBody)
  | transferComplete (env : GatewayEnv) (tc : TransferComplete)
  /-- A NOTIFY, a reconnect or the periodic sweep. -/
  | tryDispatch (envs : List UspEnv) (deviceID : String)
  | response (env : UspEnv) (retries : List UspEnv) (endpoint : String) (msg : UspMsg)
  | operationComplete (retries : List UspEnv) (connDeviceID : String) (oc : OperationComplete)
      (attempt : Nat)
  | forget (conn : Conn)
  | reaperPass
  | connectionRequest (ownerName : String) (outcome : ConnReqOutcome)

/-- The handler of a task. -/
def Task.prog : Task → Handler Unit
  | .create spec payload => (Db.insert spec payload).bind fun _ => .done ()
  | .queueDiscovery ids d cache => Acs.queueDiscovery ids d cache
  | .inform env d sid events => handleInform env d sid events
  | .post env sid body => dispatch env sid body
  | .transferComplete env tc => handleTransferComplete env tc
  | .tryDispatch envs d => Acs.tryDispatch envs d
  | .response env retries endpoint msg => handleResponse env retries endpoint msg
  | .operationComplete retries d oc attempt => handleOperationComplete retries d oc attempt
  | .forget conn => Acs.forget conn
  | .reaperPass => recoverExpiredLeases
  | .connectionRequest ownerName outcome => connectionRequestWorker ownerName outcome

/-- The device that speaks CWMP in this task. -/
def Task.informs : Task → Option String
  | .inform _ d _ _ => some d
  | _ => none

/-- The device the task dispatches to, or resolves a command of, over USP. -/
def Task.uspDevice : Task → Option String
  | .tryDispatch _ d | .operationComplete _ d _ _ => some d
  | _ => none

/-- An empty queue. -/
def World.init : World where
  jobs := ⟨[], List.nodup_nil, List.nodup_nil⟩

abbrev Action := Pool.Action Task Choice
abbrev Event := Pool.Event Stmt.Res World

/-- Run a list of actions. -/
def runFrom (as : List Action) (P : Pool Stmt.Res World) : List Event × Pool Stmt.Res World :=
  Pool.run exec Task.prog as P

/-- The statements executed by a run from the empty queue. -/
def runTrace (as : List Action) : List Event :=
  (runFrom as ⟨World.init, []⟩).1

/-- The pool a run from the empty queue ends in. -/
def runEnd (as : List Action) : Pool Stmt.Res World :=
  (runFrom as ⟨World.init, []⟩).2

/-! ### What an event did -/

/-- The copy a lease handed out. -/
def leasedJob : Event → Option Job
  | ⟨.lease .., r, _, _⟩ | ⟨.leaseNextByType .., r, _, _⟩ => Option.join r
  | _ => none

/-- The copy a lease for a CWMP session handed out. -/
def gatewayLease : Event → Option Job
  | ⟨.lease _ _ false _ _, r, _, _⟩ => Option.join r
  | _ => none

/-- The update an event carried out. -/
def executed : Event → Option Update
  | ⟨.update _ u, some _, _, _⟩ => some u
  | _ => none

/-- The job whose request was given to the transport. -/
def handedOver : Event → Option Job
  | ⟨.handOver job _, true, _, _⟩ => some job
  | _ => none

/-- The event leases the job with the given id. -/
def leasesJob (id : String) (ev : Event) : Bool :=
  (leasedJob ev).any (·.id = id)

/-- The event moves the job back to QUEUED from another status. -/
def requeuesJob (id : String) (ev : Event) : Bool :=
  (ev.pre.jobs.find id).any (·.status ≠ .queued) && (ev.post.jobs.find id).any (·.status = .queued)

/-- The copies a lookup returned, with why they were looked up. -/
def lookedUp : Event → Option (Cause × Job)
  | ⟨.byID c _, r, _, _⟩ | ⟨.byCommandKey c _, r, _, _⟩ => r.map (c, ·)
  | _ => none

/-- The device found without an outstanding request, and its number of leases then. -/
def foundClear : Event → Option (String × Nat)
  | ⟨.hasOutstandingRPC d, some (false, n), _, _⟩ => some (d, n)
  | _ => none

end Acs
