/-
Where the secret handles of jobs come from.

A sealed secret is spent by the job that carries its handle, so only the BSS adapter
may name one.  Single writes and bulk actions of an operator refuse a handle, and what
they build from Wi-Fi settings or a ping has none.  A schedule does not: its payload is
checked for protected names when it is created and is otherwise stored as it came, and
the worker turns it into jobs.  So no job of an operator carries a handle in any run
whose schedules carry none, and one that carries a handle fires it.
-/
import Acs.Api.Requests
import Acs.Queue.System

namespace Acs

open List Payload Prog Pool

/-! ### Payloads without handles -/

/-- The writes of a payload. -/
def Payload.writes : Payload → List ParameterWrite
  | .setParameter p => p.parameters
  | .addObject p => p.parameters
  | .diagnosticsPing p => p.trigger
  | .diagnosticsTraceroute p => p.trigger
  | .diagnosticsDownload p => p.trigger
  | .diagnosticsUpload p => p.trigger
  | _ => []

/-- No parameter has a secret handle. -/
def Payload.HandleFree (p : Payload) : Prop :=
  ∀ w ∈ p.writes, w.secretHandle = ""

instance (p : Payload) : Decidable p.HandleFree :=
  inferInstanceAs (Decidable (∀ w ∈ p.writes, w.secretHandle = ""))

variable {α : Type} {tables : ApiTables} {inputs : List ParameterInput}
variable {names : Option (StringMap Bool)} {resolver : WiFiResolver} {root detail d : String}
variable {s : WifiSettings} {ids : JobIDs} {payload : Payload} {type : JobType} {sj : ScheduledJob}

theorem exists_of_mapM_ok {ε β : Type} {f : α → Except ε β} {xs : List α} {ys : List β}
    (h : xs.mapM f = .ok ys) {y : β} (hy : y ∈ ys) : ∃ x ∈ xs, f x = .ok y := by
  induction xs generalizing ys with
  | nil =>
    cases h
    cases hy
  | cons x xs ih =>
    rw [mapM_cons] at h
    cases hx : f x with
    | error e => rw [hx] at h; cases h
    | ok b =>
      cases hxs : xs.mapM f with
      | error e => rw [hx, hxs] at h; cases h
      | ok bs =>
        rw [hx, hxs] at h
        cases h
        rcases mem_cons.mp hy with rfl | hy
        · exact ⟨x, mem_cons_self, hx⟩
        · obtain ⟨x', hx', hfx'⟩ := ih hxs hy
          exact ⟨x', mem_cons_of_mem _ hx', hfx'⟩

theorem buildParameterWrite_handle {p : ParameterInput} {w : ParameterWrite}
    (h : buildParameterWrite tables p = .ok w) : w.secretHandle = p.secretHandle := by
  unfold buildParameterWrite at h
  by_cases hhandle : p.secretHandle = ""
  · simp only [hhandle] at h
    repeat' split at h
    all_goals first | cases h; simp [hhandle] | simp_all
  · simp only [ne_eq, hhandle, not_false_eq_true, if_true] at h
    repeat' split at h
    all_goals cases h
    rfl

theorem buildSetParameterPayload_handleFree {payload : SetParameterPayload}
    (hfree : ∀ p ∈ inputs, p.secretHandle = "")
    (h : buildSetParameterPayload tables inputs = .ok payload) :
    (setParameter payload).HandleFree := by
  unfold buildSetParameterPayload at h
  split at h
  · cases h
  · cases hwrites : inputs.mapM (buildParameterWrite tables) with
    | error e => rw [hwrites] at h; cases h
    | ok writes =>
      rw [hwrites] at h
      cases h
      intro w hw
      obtain ⟨p, hp, hbuild⟩ := exists_of_mapM_ok hwrites hw
      rw [buildParameterWrite_handle hbuild, hfree p hp]

theorem handleFree_of_not_hasSecretHandle (h : hasSecretHandle inputs = false) :
    ∀ p ∈ inputs, p.secretHandle = "" := by
  simpa [hasSecretHandle] using h

/-! ### Wi-Fi settings and pings name no handle -/

/-- Binding three lists of inputs without handles gives such a list. -/
theorem append_handleFree {a b c : Except String (List ParameterInput)}
    (ha : ∀ l, a = .ok l → ∀ p ∈ l, p.secretHandle = "")
    (hb : ∀ l, b = .ok l → ∀ p ∈ l, p.secretHandle = "")
    (hc : ∀ l, c = .ok l → ∀ p ∈ l, p.secretHandle = "")
    (h : (do return (← a) ++ (← b) ++ (← c) : Except String (List ParameterInput)) = .ok inputs) :
    ∀ p ∈ inputs, p.secretHandle = "" := by
  cases a with
  | error e => cases h
  | ok a =>
    cases b with
    | error e => cases h
    | ok b =>
      cases c with
      | error e => cases h
      | ok c =>
        cases h
        intro p hp
        rcases mem_append.mp hp with hp | hp
        · rcases mem_append.mp hp with hp | hp
          · exact ha a rfl p hp
          · exact hb b rfl p hp
        · exact hc c rfl p hp

theorem igdWiFiWrite_handleFree {wanted : Bool} {p : CanonicalParameter} {what value type : String} :
    ∀ inputs,
      igdWiFiWrite resolver root names wanted p what value type = .ok inputs →
      ∀ p ∈ inputs, p.secretHandle = "" := by
  intro inputs h
  unfold igdWiFiWrite at h
  repeat' split at h
  all_goals
    cases h
    try simp

theorem networkWrite_handleFree {n : WiFiNetwork} {wanted writable : Bool}
    {path what value type : String} : ∀ inputs,
      networkWrite n wanted path writable what value type = .ok inputs →
      ∀ p ∈ inputs, p.secretHandle = "" := by
  intro inputs h
  unfold networkWrite at h
  repeat' split at h
  all_goals
    cases h
    try simp

theorem igdWiFiWrites_handleFree (h : igdWiFiWrites resolver root names s = .ok inputs) :
    ∀ p ∈ inputs, p.secretHandle = "" :=
  append_handleFree igdWiFiWrite_handleFree igdWiFiWrite_handleFree igdWiFiWrite_handleFree h

theorem networkWrites_handleFree {n : WiFiNetwork} (h : networkWrites s n = .ok inputs) :
    ∀ p ∈ inputs, p.secretHandle = "" :=
  append_handleFree networkWrite_handleFree networkWrite_handleFree networkWrite_handleFree h

theorem wifiPlanOf_handleFree {detail' : String} {writes : Except String (List ParameterInput)}
    {payload : SetParameterPayload}
    (hfree : ∀ inputs, writes = .ok inputs → ∀ p ∈ inputs, p.secretHandle = "")
    (h : wifiPlanOf tables detail writes = .write payload detail') :
    (setParameter payload).HandleFree := by
  cases writes with
  | error e => cases h
  | ok inputs =>
    unfold wifiPlanOf at h
    dsimp only at h
    split at h
    · cases h
    next built hbuilt =>
      cases h
      exact buildSetParameterPayload_handleFree (hfree inputs rfl) hbuilt

theorem planWiFiWrites_handleFree {cache : StringMap String} {payload : SetParameterPayload}
    (h : planWiFiWrites tables resolver root names cache s = .write payload detail) :
    (setParameter payload).HandleFree := by
  unfold planWiFiWrites at h
  by_cases hroot : root = dataModelRootIGD1
  · rw [if_pos hroot] at h
    exact wifiPlanOf_handleFree (fun _ => igdWiFiWrites_handleFree) h
  · rw [if_neg hroot] at h
    dsimp only at h
    repeat' split at h
    all_goals try cases h
    refine wifiPlanOf_handleFree ?_ h
    intro inputs hinputs p hp
    generalize (resolver.resolveWiFiNetworks (names.getD ∅) cache).networks.filter
      (·.role = "primary") = primary at hinputs
    cases hlists : primary.mapM (networkWrites s) with
    | error e => rw [hlists] at hinputs; cases hinputs
    | ok lists =>
      rw [hlists] at hinputs
      cases hinputs
      obtain ⟨l, hl, hpl⟩ := mem_flatten.mp hp
      obtain ⟨n, _, hn⟩ := exists_of_mapM_ok hlists hl
      exact networkWrites_handleFree hn p hpl

theorem triggerWrites_handleFree {names : StringMap Bool} {unsupported : String → String}
    {pathPrefix : String} {inputs : List DiagnosticsInput} :
    ∀ {writes : List ParameterWrite},
      triggerWrites names unsupported pathPrefix inputs = .ok writes →
      ∀ w ∈ writes, w.secretHandle = "" := by
  induction inputs with
  | nil =>
    intro writes h
    unfold triggerWrites at h
    split at h <;> cases h
    simp
  | cons input rest ih =>
    intro writes h
    unfold triggerWrites at h
    split at h
    · cases hrest : triggerWrites names unsupported pathPrefix rest with
      | error e => rw [hrest] at h; cases h
      | ok ws =>
        rw [hrest] at h
        cases h
        intro w hw
        rcases mem_cons.mp hw with rfl | hw
        · rfl
        · exact ih hrest w hw
    · split at h
      · cases h
      · exact ih h

theorem planCWMP_handleFree {diagnostic pathPrefix : String} {inputs : List DiagnosticsInput}
    {resultLeaves : List String} {plan : DiagnosticsPlan}
    (h : planCWMP names diagnostic pathPrefix inputs resultLeaves = .ok plan) :
    ∀ w ∈ plan.trigger, w.secretHandle = "" := by
  cases names with
  | none => cases h
  | some names =>
    unfold planCWMP at h
    dsimp only at h
    split at h
    · cases h
      simp
    · split at h
      · cases h
      · cases htrigger : triggerWrites names
            (fun reason => "device does not support " ++ diagnostic ++ ": " ++ reason)
            pathPrefix inputs with
        | error e => rw [htrigger] at h; cases h
        | ok writes =>
          rw [htrigger] at h
          cases h
          exact triggerWrites_handleFree htrigger

/-- A scheduled ping is planned anew: what the schedule stored as its plan is dropped. -/
theorem scheduledPingPayload_handleFree {p p' : DiagnosticsPingPayload}
    (h : scheduledPingPayload p root names = .ok p') :
    (diagnosticsPing p').HandleFree := by
  unfold scheduledPingPayload planPing at h
  generalize applyPingDefaults _ = q at h
  cases hplan : planCWMP names "IPPing" q.pathPrefix
      [⟨"Host", q.host, true⟩,
       ⟨"NumberOfRepetitions", toString q.numberOfRepetitions, false⟩,
       ⟨"Timeout", toString q.timeout, false⟩,
       ⟨"DataBlockSize", toString q.dataBlockSize, false⟩,
       ⟨"DSCP", toString q.dscp, false⟩] pingResultLeaves with
  | error e => rw [hplan] at h; cases h
  | ok plan =>
    rw [hplan] at h
    cases h
    exact planCWMP_handleFree hplan

/-! ### What the handlers issue -/

/-- The payload of a schedule of writes has no handles. -/
def ScheduledJob.HandleFree (sj : ScheduledJob) : Prop :=
  sj.jobType = JobType.setParameter.text →
    ∀ p, sj.payload.setParameter = some p → (setParameter p).HandleFree

/-- The statement stores no handle. -/
def ApiStmt.HandleFree : ApiStmt → Prop
  | .queue (.insert _ payload) => payload.HandleFree
  | .queue _ => False
  | .insertIdempotent _ payload _ => payload.HandleFree
  | .read _ => True
  | .createSchedule sj => sj.HandleFree
  | .leaseDue => True

/-- The answer brings no handle. -/
def ApiStmt.BringsNone : (s : ApiStmt) → s.Res → Prop
  | .leaseDue, r => ∀ sj, r = some (some sj) → sj.HandleFree
  | _, _ => True

/-- A program that stores no handle, unless a schedule brings one. -/
def Clean {α : Type} (p : ApiProg α) : Prop :=
  p.All ApiStmt.BringsNone ApiStmt.HandleFree (fun _ => True)

theorem Clean.bind {β : Type} {p : ApiProg α} {f : α → ApiProg β} (hp : Clean p)
    (hf : ∀ a, Clean (f a)) : Clean (p >>= f) :=
  All.bind hp fun a _ => hf a

theorem clean_done (a : α) : Clean (.done a) := trivial

theorem clean_ask (q : ApiQuery) : Clean (ask q) :=
  ⟨trivial, fun _ _ => trivial⟩

theorem clean_askDevice (id : String) : Clean (askDevice id) :=
  (clean_ask _).bind fun _ => clean_done _

theorem clean_askMembers (groupID : String) : Clean (askMembers groupID) :=
  clean_ask _

theorem clean_createJob {createdBy : String} {maxAttempts : Nat} (h : payload.HandleFree) :
    Clean (createJob ids d type payload createdBy maxAttempts) := by
  unfold createJob
  split
  · trivial
  · exact ⟨h, fun _ _ => trivial⟩

theorem clean_createWithIdempotency {createdBy key : String} (h : payload.HandleFree) :
    Clean (createWithIdempotency ids d type payload createdBy key) := by
  unfold createWithIdempotency
  split
  · exact clean_createJob h
  · split
    · trivial
    · exact ⟨h, fun _ _ => trivial⟩

theorem clean_getScopedDevice (id : String) : Clean (getScopedDevice id) := by
  refine (clean_ask _).bind fun d => ?_
  rcases d with _ | _ | d
  · trivial
  · trivial
  · refine (clean_ask _).bind fun scope => ?_
    cases scope with
    | none => trivial
    | some scope =>
      by_cases hscope : inScope scope d.customerID
      · simp only [hscope, if_true]
        trivial
      · simp only [hscope]
        trivial

theorem clean_validateWritableParameters (tables : ApiTables) (d : String)
    (payload : SetParameterPayload) : Clean (validateWritableParameters tables d payload) := by
  refine (clean_ask _).bind fun names => ?_
  rcases names with _ | _ | names
  · trivial
  · trivial
  · dsimp only
    split
    · trivial
    · exact Clean.bind (all_collect fun n _ => clean_ask _) fun _ => clean_done _

/-- **A write of an operator stores no handle.** -/
theorem clean_putParameters {claims : Option String} {id : String}
    {body : Option (List ParameterInput)} {key : String}
    (hoperator : claims.any (· ≠ serviceSubject)) :
    Clean (putParameters tables claims id body key ids) := by
  unfold putParameters
  refine (clean_getScopedDevice id).bind fun err => ?_
  cases err with
  | some err => trivial
  | none =>
    cases body with
    | none => trivial
    | some inputs =>
      dsimp only
      split
      · trivial
      next hrefused =>
        have hfree : hasSecretHandle inputs = false := by
          by_contra hhandle
          rw [Bool.not_eq_false] at hhandle
          exact hrefused (by rw [hhandle, hoperator]; rfl)
        cases hbuilt : buildSetParameterPayload tables inputs with
        | error err => trivial
        | ok payload =>
          have hpayload : (setParameter payload).HandleFree :=
            buildSetParameterPayload_handleFree (handleFree_of_not_hasSecretHandle hfree) hbuilt
          dsimp only
          split
          · trivial
          · refine (clean_validateWritableParameters tables id payload).bind fun err => ?_
            cases err with
            | some err => trivial
            | none =>
              dsimp only
              -- what the call evaluates to does not matter, only that it is clean
              generalize hprog : createWithIdempotency ids id .setParameter
                (.setParameter payload) (operatorFromRequest claims) key = prog
              have hcreate : Clean prog := hprog ▸ clean_createWithIdempotency hpayload
              refine hcreate.bind fun r => ?_
              rcases r with (_ | _ | _) | key <;> trivial

theorem clean_bulkCreate {operator : String} (h : payload.HandleFree) :
    Clean (bulkCreate tables ids d type payload operator detail) := by
  refine (clean_createJob h).bind fun r => ?_
  cases r with
  | error | ok => trivial

theorem clean_bulkSetWiFi (tables : ApiTables) (resolver : WiFiResolver) (ids : JobIDs)
    (d : String) (s : WifiSettings) (operator : String) :
    Clean (bulkSetWiFi tables resolver ids d s operator) := by
  refine (clean_askDevice _).bind fun device => ?_
  cases device with
  | none => trivial
  | some device =>
    refine (clean_ask _).bind fun names => ?_
    cases names with
    | none => trivial
    | some names =>
      refine (clean_ask _).bind fun cache => ?_
      cases cache with
      | none => trivial
      | some cache =>
        dsimp only
        split
        · trivial
        · refine (clean_createJob ?_).bind fun r => ?_
          · simp [HandleFree, writes]
          · cases r with
            | error | ok => trivial
        next payload detail hplan =>
          exact clean_bulkCreate (planWiFiWrites_handleFree hplan)

/-- What a bulk request writes to every device has no handles. -/
def BulkPlan.HandleFree : BulkPlan → Prop
  | .setParameter payload => (Payload.setParameter payload).HandleFree
  | _ => True

theorem bulkPlan_handleFree {req : BulkActionRequest} {plan : BulkPlan}
    (h : bulkPlan tables req = .ok plan) : plan.HandleFree := by
  unfold bulkPlan at h
  split at h
  · split at h
    · cases h
    next hhandle =>
      split at h
      · cases h
      next payload hbuilt =>
        split at h
        · cases h
        · cases h
          exact buildSetParameterPayload_handleFree
            (handleFree_of_not_hasSecretHandle (by simpa using hhandle)) hbuilt
  · split at h
    · cases h
    · cases h
      trivial
  · cases h
    trivial
  · cases h
    trivial
  · cases h

theorem clean_bulkOne (tables : ApiTables) (resolver : WiFiResolver) {plan : BulkPlan}
    (scope : Option (List String)) (operator : String) (ids : JobIDs) (d : String)
    (h : plan.HandleFree) : Clean (bulkOne tables resolver plan scope operator ids d) := by
  have hother : ∀ p : Payload, p.writes = [] → p.HandleFree := by
    intro p hp
    simp [Payload.HandleFree, hp]
  unfold bulkOne
  refine Clean.bind ?_ fun visible => ?_
  · cases scope with
    | none => trivial
    | some customers => exact (clean_askDevice _).bind fun _ => clean_done _
  · cases visible with
    | false => trivial
    | true =>
      cases plan with
      | setParameter payload =>
        refine (clean_validateWritableParameters ..).bind fun err => ?_
        cases err with
        | some err => trivial
        | none => exact clean_bulkCreate h
      | setWiFi s => exact clean_bulkSetWiFi ..
      | connectionRequest t => exact clean_bulkCreate (hother _ rfl)
      | refreshCellular =>
        refine (clean_askDevice _).bind fun device => ?_
        cases device with
        | none => trivial
        | some device =>
          refine (clean_ask _).bind fun paths => ?_
          split
          · trivial
          · exact clean_bulkCreate (hother _ rfl)

/-- **A bulk action stores no handle**, whoever asks for it. -/
theorem clean_bulkAction (tables : ApiTables) (resolver : WiFiResolver) (claims : Option String)
    (body : Option BulkActionRequest) (ids : Nat → JobIDs) :
    Clean (bulkAction tables resolver claims body ids) := by
  cases body with
  | none => trivial
  | some req =>
    refine Clean.bind ?_ fun devices => ?_
    · unfold bulkDevices
      split
      · exact clean_askMembers _
      · trivial
    · rcases devices with _ | _ | ⟨d, ds⟩
      · trivial
      · trivial
      · dsimp only
        split
        · trivial
        · split
          · trivial
          next plan hplan =>
            refine (clean_ask _).bind fun scope => ?_
            cases scope with
            | none => trivial
            | some scope =>
              exact Clean.bind (all_collect fun d _ =>
                clean_bulkOne tables resolver scope _ _ _ (bulkPlan_handleFree hplan))
                fun _ => clean_done _

theorem clean_scheduleTarget (req : CreateScheduledJobRequest) (scope : Option (List String)) :
    Clean (scheduleTarget req scope) := by
  unfold scheduleTarget
  split
  · refine (clean_askDevice _).bind fun d => ?_
    cases d with
    | none => trivial
    | some d =>
      dsimp only
      split <;> trivial
  · split
    · refine (clean_ask _).bind fun customer => ?_
      cases customer with
      | none => trivial
      | some customer =>
        dsimp only
        split <;> trivial
    · trivial

theorem clean_createScheduledJob {claims : Option String} {body : Option CreateScheduledJobRequest}
    {id : String}
    (h : ∀ req, body = some req → (req.row id (operatorFromRequest claims)).HandleFree) :
    Clean (createScheduledJob tables claims body id) := by
  cases body with
  | none => trivial
  | some req =>
    unfold createScheduledJob
    dsimp only
    split
    · trivial
    · refine (clean_ask _).bind fun scope => ?_
      cases scope with
      | none => trivial
      | some scope =>
        dsimp only
        split
        · trivial
        · refine (clean_scheduleTarget req scope).bind fun err => ?_
          cases err with
          | some err => trivial
          | none =>
            dsimp only
            split
            · trivial
            · refine Clean.bind ⟨h req rfl, fun _ _ => trivial⟩ fun sj => ?_
              cases sj with
              | none | some => trivial

/-! ### What a schedule fires -/

theorem decoded_handleFree (h : sj.HandleFree) (hdecoded : sj.decoded = some (type, payload)) :
    payload.HandleFree ∨ ∃ p, payload = .diagnosticsPing p := by
  unfold ScheduledJob.decoded at hdecoded
  split at hdecoded
  next htype =>
    obtain ⟨p, hp, heq⟩ := Option.map_eq_some_iff.mp hdecoded
    cases heq
    exact .inl (h htype p hp)
  · repeat' split at hdecoded
    all_goals try cases hdecoded
    all_goals
      obtain ⟨p, hp, heq⟩ := Option.map_eq_some_iff.mp hdecoded
      cases heq
    · exact .inl (by simp [HandleFree, writes])
    · exact .inr ⟨p, rfl⟩
    · exact .inl (by simp [HandleFree, writes])

/-- The job a schedule makes for one device has no handles: a ping is planned for the device. -/
theorem scheduledJobOf_handleFree (h : payload.HandleFree ∨ ∃ p, payload = .diagnosticsPing p) :
    (scheduledJobOf d payload).All ApiStmt.BringsNone ApiStmt.HandleFree
      (fun r => ∀ p n, r = some (p, n) → p.HandleFree) := by
  have hdone : ∀ {payload : Payload} {n : Nat}, payload.HandleFree →
      ∀ p m, some (payload, n) = some (p, m) → p.HandleFree := by
    intro payload n hfree p m heq
    cases heq
    exact hfree
  cases payload with
  | diagnosticsPing q =>
    refine All.bind (clean_askDevice d) fun device _ => ?_
    cases device with
    | none => nofun
    | some device =>
      refine All.bind (clean_ask _) fun names _ => ?_
      cases names with
      | none => nofun
      | some names =>
        dsimp only
        split
        · nofun
        next q' hplan =>
          exact hdone (scheduledPingPayload_handleFree hplan)
  | _ =>
    refine hdone ?_
    rcases h with h | ⟨p, hp⟩
    · exact h
    · cases hp

theorem clean_fireSchedule (h : sj.HandleFree) (ids : Nat → JobIDs) :
    Clean (fireSchedule sj ids) := by
  refine Clean.bind ?_ fun candidates => ?_
  · unfold candidateIDs
    repeat' split
    · trivial
    · exact clean_askMembers _
    · trivial
  · cases candidates with
    | none => trivial
    | some candidates =>
      refine Clean.bind ?_ fun deviceIDs => ?_
      · unfold customerDevices
        split
        · trivial
        · exact Clean.bind (all_collect fun id _ =>
            (clean_askDevice id).bind fun _ => clean_done _) fun _ => clean_done _
      · split
        · trivial
        next type payload hdecoded =>
          refine all_each fun d _ => ?_
          refine (scheduledJobOf_handleFree (decoded_handleFree h hdecoded)).bind ?_
          intro r hr
          rcases r with _ | ⟨payload', n⟩
          · trivial
          · exact (clean_createJob (hr payload' n rfl)).bind fun _ => clean_done _

theorem clean_scheduleTick (ids : Nat → JobIDs) : Clean (scheduleTick ids) := by
  refine ⟨trivial, fun r hr => ?_⟩
  rcases r with _ | _ | sj
  · trivial
  · trivial
  · exact clean_fireSchedule (hr sj rfl) ids

/-! ### Runs -/

/-- Every job that was not there at the start, and every schedule, is free of handles. -/
structure HandlesFromOutside (before : World) (w : ApiWorld) : Prop where
  jobs : ∀ row ∈ w.queue.jobs.rows, row ∈ before.jobs.rows ∨ row.payload.HandleFree
  schedules : ∀ sj ∈ w.schedules, sj.HandleFree

theorem insert_handlesFromOutside {before w : World} {schedules : List ScheduledJob}
    {spec : JobSpec} {c : Choice} (hfree : payload.HandleFree)
    (h : HandlesFromOutside before ⟨w, schedules⟩) :
    HandlesFromOutside before ⟨(exec (.insert spec payload) c w).2, schedules⟩ := by
  refine ⟨?_, h.schedules⟩
  intro row hrow
  simp only [exec, Stmt.effect] at hrow
  split at hrow
  · exact h.jobs row hrow
  next jobs hinsert =>
    have hjobs : (w.tick c).jobs.insert (newJob spec payload (w.tick c).now) = some jobs := by
      split at hinsert
      · cases hinsert
      · exact hinsert
    rcases JobTable.mem_insert hjobs hrow with hrow | rfl
    · exact h.jobs row hrow
    · exact .inr hfree

theorem advance_handleFree (h : sj.HandleFree) (now : Time) :
    (sj.advance now).HandleFree := by
  rw [ScheduledJob.advance]
  intro htype p hp
  exact h htype p hp

/-- A statement that stores no handle keeps the invariant, and answers with none. -/
theorem handlesFromOutside_step {before : World} (s : ApiStmt) (c : ApiChoice) (w : ApiWorld)
    (hs : s.HandleFree) (h : HandlesFromOutside before w) :
    s.BringsNone (s.exec c w).1 ∧ HandlesFromOutside before (s.exec c w).2 := by
  obtain ⟨queue, schedules⟩ := w
  cases s with
  | read q => exact ⟨trivial, h⟩
  | queue s =>
    refine ⟨trivial, ?_⟩
    cases s with
    | insert spec payload => exact insert_handlesFromOutside hs h
    | _ => exact hs.elim
  | insertIdempotent spec payload key =>
    refine ⟨trivial, ?_⟩
    unfold ApiStmt.exec
    dsimp only
    split
    · exact h
    · exact insert_handlesFromOutside hs h
  | createSchedule sj =>
    refine ⟨trivial, ?_⟩
    unfold ApiStmt.exec
    dsimp only
    split
    · exact ⟨h.jobs, h.schedules⟩
    · refine ⟨h.jobs, ?_⟩
      intro sj' hsj'
      rcases mem_append.mp hsj' with hsj' | hsj'
      · exact h.schedules sj' hsj'
      · rw [mem_singleton.mp hsj']
        exact hs
  | leaseDue =>
    unfold ApiStmt.exec
    dsimp only
    split
    · exact ⟨by rintro sj ⟨⟩, h.jobs, h.schedules⟩
    · split
      · exact ⟨by rintro sj ⟨⟩, h.jobs, h.schedules⟩
      next sj hdue =>
        have hmem : sj ∈ schedules :=
          (mem_filter.mp (argmin_mem hdue)).1
        refine ⟨?_, h.jobs, ?_⟩
        · intro sj' heq
          cases heq
          exact h.schedules sj hmem
        · intro row hrow
          obtain ⟨old, hold, rfl⟩ := mem_map.mp hrow
          split
          · exact advance_handleFree (h.schedules old hold) _
          · exact h.schedules old hold

/-- A request of an authenticated operator, not of the BSS adapter, or a tick. -/
def ApiTask.ByOperator : ApiTask → Prop
  | .putParameters claims .. | .bulkAction claims .. | .createScheduledJob claims .. =>
    claims.any (· ≠ serviceSubject)
  | .scheduleTick _ => True

/-- Nobody schedules a write with a handle. -/
def ApiTask.SchedulesNoHandle : ApiTask → Prop
  | .createScheduledJob claims body id =>
    ∀ req, body = some req → (req.row id (operatorFromRequest claims)).HandleFree
  | _ => True

theorem clean_prog {t : ApiTask} (hoperator : t.ByOperator) (hschedule : t.SchedulesNoHandle) :
    Clean (t.prog tables resolver) := by
  cases t with
  | putParameters => exact (clean_putParameters hoperator).bind fun _ => clean_done _
  | bulkAction => exact (clean_bulkAction ..).bind fun _ => clean_done _
  | createScheduledJob => exact (clean_createScheduledJob hschedule).bind fun _ => clean_done _
  | scheduleTick => exact clean_scheduleTick _

/-- **Operators create no job with a secret handle, as long as they schedule none.**  In every
state that requests of operators and ticks of the schedule worker lead to, in whatever order
their statements are executed, each job was there before or has no handle. -/
theorem operator_jobs_handleFree (tables : ApiTables) (resolver : WiFiResolver)
    (as : List ApiAction) (before : World)
    (hoperator : ∀ t ∈ started as, t.ByOperator)
    (hschedule : ∀ t ∈ started as, t.SchedulesNoHandle) :
    ∀ ev ∈ apiTrace tables resolver as before, ∀ row ∈ ev.post.queue.jobs.rows,
      row ∈ before.jobs.rows ∨ row.payload.HandleFree := by
  intro ev hev
  exact (run_rule (G := fun _ => True)
    (fun s c w _ hstmt hpre => handlesFromOutside_step s c w hstmt hpre) (by simp) ⟨fun row hrow => .inl hrow, by simp⟩
    (fun t ht => clean_prog (hoperator t ht) (hschedule t ht)) (fun _ _ => trivial) ev hev).2.post.jobs

/-! ### Two runs -/

/-- Plain quotes and a dictionary that knows no parameter. -/
def plainTables : ApiTables where
  quote s := "\"" ++ s ++ "\""
  validateValue _ _ := none
  lookupType _ := none

def noWiFi : WiFiResolver where
  resolveWritablePath _ _ _ := .error "no path"
  resolveWiFiNetworks _ _ := ⟨[], false, []⟩

/-- Every device exists, belongs to no customer and is not discovered; the operator sees all. -/
def openSite : ApiChoice where
  answer
    | .device _ => some (some {})
    | .deviceScope => some none
    | .memberDeviceIDs _ => some []
    | .group _ => some none
    | .names _ => some none
    | .cache _ => some ∅
    | .instances _ _ => none
    | .cellularPaths _ => []

/-- A schedule that writes the Wi-Fi passphrase of one device every hour. -/
def passphraseSchedule (w : ParameterWrite) : CreateScheduledJobRequest where
  name := "passphrase"
  jobType := "SET_PARAMETER"
  targetType := "DEVICE"
  targetID := "cpe1"
  payload := { setParameter := some { parameters := [w] } }
  intervalSeconds := 3600

def passphrasePath : String := "Device.WiFi.AccessPoint.1.Security.KeyPassphrase"

/-- An operator writes a parameter and creates a schedule, and the worker runs. -/
def scheduledWrite (w : ParameterWrite) : List ApiAction :=
  [.atomic (.putParameters (some "alice") "cpe1"
      (some [{ name := passphrasePath, value := "correct horse" }]) "" ("j0", "k0"))
      fun _ => openSite,
   .atomic (.createScheduledJob (some "alice") (some (passphraseSchedule w)) "s1")
      fun _ => openSite,
   .atomic (.scheduleTick fun i => ("j" ++ toString (i + 1), "k" ++ toString (i + 1)))
      fun _ => openSite]

/-- The handles of the jobs in the last state of a run. -/
def handlesAtEnd (as : List ApiAction) : List (List String) :=
  ((apiTrace plainTables noWiFi as World.init).getLast?.map fun ev =>
    ev.post.queue.jobs.rows.map fun row => row.payload.writes.map (·.secretHandle)).getD []

theorem scheduledWrite_byOperator (w : ParameterWrite) :
    ∀ t ∈ started (scheduledWrite w), t.ByOperator := by
  have hoperator : (some "alice").any (· ≠ serviceSubject) := by decide
  intro t ht
  simp only [scheduledWrite, started, Pool.Action.task, filterMap_cons,
    filterMap_nil, mem_cons, not_mem_nil, or_false] at ht
  rcases ht with rfl | rfl | rfl
  · exact hoperator
  · exact hoperator
  · trivial

/-- With a plain value, two jobs without handles are queued. -/
theorem operator_jobs_handleFree_plainSchedule :
    handlesAtEnd (scheduledWrite ⟨passphrasePath, "correct horse", "xsd:string", ""⟩) =
      [[""], [""]] ∧
    ∀ ev ∈ apiTrace plainTables noWiFi
        (scheduledWrite ⟨passphrasePath, "correct horse", "xsd:string", ""⟩) World.init,
      ∀ row ∈ ev.post.queue.jobs.rows, row ∈ World.init.jobs.rows ∨ row.payload.HandleFree := by
  refine ⟨by decide +kernel,
    operator_jobs_handleFree _ _ _ _ (scheduledWrite_byOperator _) ?_⟩
  intro t ht
  simp only [scheduledWrite, started, Pool.Action.task, filterMap_cons,
    filterMap_nil, mem_cons, not_mem_nil, or_false] at ht
  rcases ht with rfl | rfl | rfl
  · trivial
  · intro req hreq _ p hp
    cases hreq
    cases hp
    decide
  · trivial

/-- The handle of a BSS customer in the payload of a schedule ends up in a job: the operator
spends the secret. -/
theorem scheduled_handle_reaches_job :
    (∀ t ∈ started (scheduledWrite ⟨passphrasePath, "", "xsd:string", "sh_a1"⟩),
      t.ByOperator) ∧
    handlesAtEnd (scheduledWrite ⟨passphrasePath, "", "xsd:string", "sh_a1"⟩) =
      [[""], ["sh_a1"]] :=
  ⟨scheduledWrite_byOperator _, by decide +kernel⟩

end Acs
