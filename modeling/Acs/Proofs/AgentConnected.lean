/-
`usp_agents.connected` and the registry.

The row of an endpoint says connected from the link of a connection to the end of a
reconciled one.  In between there are times when only a running handler knows why: a
connection that is linked and not yet marked, or removed and not yet marked disconnected
(`Unsettled`).  As long as connections of the endpoint keep out of each other's way at
these times (`ConnAct.orderly`), the row and the registry agree when no handler is running.

They do not if a connection ends while the next one is being linked: the write of the old
connection comes last.
-/
import Acs.Lib.Keyed
import Acs.Uspc.Connection

namespace Acs.Uspc

open List Controller AList Option

/-! ### The table of agents -/

namespace UspAgents

variable {agents agents' : UspAgents} {endpoint device : String}

/-- The row of the endpoint is the device's. -/
def RowOf (agents : UspAgents) (endpoint device : String) : Prop :=
  ∃ a, agents.byEndpointID endpoint = some a ∧ a.deviceID = device

theorem byEndpointID_of_mem {a : UspAgent} (h : a ∈ agents.rows) :
    agents.byEndpointID a.endpointID = some a :=
  Keyed.find_of_mem agents.endpoint h

theorem byEndpointID_mapConnected (f : UspAgent → Bool) :
    (agents.mapConnected f).byEndpointID endpoint =
      (agents.byEndpointID endpoint).map fun a => { a with connected := f a } :=
  Keyed.find_map (f := fun a : UspAgent => { a with connected := f a }) (fun _ => rfl) endpoint

theorem RowOf.mapConnected {f : UspAgent → Bool} (h : agents.RowOf endpoint device) :
    (agents.mapConnected f).RowOf endpoint device := by
  obtain ⟨a, hfind, hdevice⟩ := h
  exact ⟨{ a with connected := f a }, by rw [byEndpointID_mapConnected, hfind]; rfl, hdevice⟩

theorem ofRows_eq_some {rows : List UspAgent} (h : ofRows rows = some agents) : agents.rows = rows := by
  unfold ofRows at h
  split at h
  · cases h
    rfl
  · nomatch h

theorem link_eq_some {kind : Kind} {versions : List String}
    (h : agents.link device endpoint kind versions = some agents') :
    (∃ a, agents'.byEndpointID endpoint = some a ∧ a.deviceID = device ∧ a.connected) ∧
      ∀ device', agents.RowOf endpoint device' → device' = device := by
  -- the row of the device is there, and rows of other devices are as they were
  have hrows : (∃ a ∈ agents'.rows, a.endpointID = endpoint ∧ a.deviceID = device ∧ a.connected) ∧
      ∀ a ∈ agents.rows, a.deviceID ≠ device → a ∈ agents'.rows := by
    unfold link at h
    split at h
    next hany =>
      obtain ⟨a, ha, hdevice⟩ := any_eq_true.mp hany
      have hdevice : a.deviceID = device := by simpa using hdevice
      rw [ofRows_eq_some h]
      constructor
      · refine ⟨_, mem_map_of_mem ha, ?_⟩
        rw [if_pos hdevice]
        exact ⟨rfl, hdevice, rfl⟩
      · intro b hb hne
        exact mem_map.mpr ⟨b, hb, if_neg hne⟩
    next =>
      rw [ofRows_eq_some h]
      exact ⟨⟨_, mem_append_right _ (mem_singleton_self _), rfl, rfl, rfl⟩,
        fun b hb _ => mem_append_left _ hb⟩
  obtain ⟨⟨a, ha, hendpoint, hdevice, hconnected⟩, hothers⟩ := hrows
  have hfind : agents'.byEndpointID endpoint = some a := hendpoint ▸ byEndpointID_of_mem ha
  refine ⟨⟨a, hfind, hdevice, hconnected⟩, ?_⟩
  rintro device' ⟨b, hb, rfl⟩
  by_contra hne
  have hbendpoint : b.endpointID = endpoint := by simpa using find?_some hb
  have hfind' := byEndpointID_of_mem (hothers b (mem_of_find?_eq_some hb) hne)
  rw [hbendpoint, hfind] at hfind'
  exact hne (Option.some.inj hfind' ▸ hdevice)

theorem RowOf.link {device' : String} {kind : Kind} {versions : List String}
    (h : agents.RowOf endpoint device')
    (hlink : agents.link device endpoint kind versions = some agents') :
    agents'.RowOf endpoint device' := by
  obtain ⟨⟨a, hfind, hdevice, -⟩, howner⟩ := link_eq_some hlink
  exact ⟨a, hfind, hdevice.trans (howner device' h).symm⟩

end UspAgents

/-! ### Which runs are orderly -/

/-- A connection is registered when no reconciled one of the endpoint is, marked reconciled
when it is registered or a reconciled one is, and its row marked disconnected when none is
registered; a link that is made is answered, the agent is then found, and the row of an
agent that is gone is written. -/
def ConnAct.orderly (s : Controller) : ConnAct → Bool
  | .step c d =>
    match s.phases.lookup c with
    | some .register => !s.live c.endpoint
    | some (.link ..) => d ≠ .lost
    | some .resolve => d = .executed
    | some (.mark _) => s.current c || s.live c.endpoint
    | some (.disconnect _) => d ≠ .refused && (s.registry.lookup c.endpoint).isNone
    | _ => true
  | _ => true

def Controller.orderly : Controller → List ConnAct → Bool
  | _, [] => true
  | s, a :: acts => a.orderly s && (s.act a).orderly acts

/-! ### What holds while handlers run -/

section Invariant

variable (endpoint : String)

/-- What is known of a connection by its next step. -/
def Phase.Fits (s : Controller) (c : Conn) : Phase → Prop
  | .idle | .link .. | .remove => True
  | .register => s.reconciledDeviceID c = none ∧ s.current c = false
  | .resolve =>
    (∃ device, s.agents.RowOf endpoint device) ∧ (s.current c = true → s.connected endpoint = true)
  | .mark device =>
    s.agents.RowOf endpoint device ∧ (s.current c = true → s.connected endpoint = true)
  | .disconnect device => s.agents.RowOf endpoint device ∧ s.current c = false
  | .identify | .look | .forget | .closed => s.current c = false

/-- The row may say connected because of what this connection is about to do. -/
def Phase.unsettled (s : Controller) (c : Conn) : Phase → Bool
  | .resolve | .mark _ | .disconnect _ => true
  | .look => s.isReconciled c
  | _ => false

def Unsettled (s : Controller) : Prop :=
  ∃ c p, s.phases.lookup c = some p ∧ p.unsettled s c = true

/-- The invariant of orderly runs. -/
structure Controller.Agrees (s : Controller) : Prop where
  conns : ∀ c p, s.phases.lookup c = some p → c.endpoint = endpoint ∧ p.Fits endpoint s c
  registered : ∀ c, s.registry.lookup endpoint = some c →
    c.endpoint = endpoint ∧ (s.phases.lookup c).isSome
  known : ∀ c device, s.reconciledDeviceID c = some device → s.agents.RowOf endpoint device
  awake : s.connected endpoint → s.live endpoint ∨ Unsettled s
  alive : s.live endpoint → s.connected endpoint

end Invariant

variable {endpoint : String} {s s' : Controller} {c : Conn} {p p' : Phase} {d : Delivery}

theorem live_eq_true_iff : s.live endpoint ↔
    ∃ c, s.registry.lookup endpoint = some c ∧ s.isReconciled c := by
  simp only [live, Option.any_eq_true]

/-- What is known of a connection stays so while another one takes a step. -/
theorem Phase.Fits.frame (h : p.Fits endpoint s c)
    (hrow : ∀ device, s.agents.RowOf endpoint device → s'.agents.RowOf endpoint device)
    (hcurrent : s'.current c → s.current c)
    (hconnected : s'.current c → s.connected endpoint → s'.connected endpoint)
    (hidentity : s'.reconciledDeviceID c = s.reconciledDeviceID c) : p.Fits endpoint s' c := by
  have hnot : s.current c = false → s'.current c = false := fun hs =>
    Bool.eq_false_iff.mpr fun hs' => by rw [hcurrent hs'] at hs; nomatch hs
  cases p with
  | idle | link | remove => trivial
  | identify | look | forget | closed => exact hnot h
  | register => exact ⟨hidentity.trans h.1, hnot h.2⟩
  | resolve =>
    obtain ⟨⟨device, hdevice⟩, hcon⟩ := h
    exact ⟨⟨device, hrow device hdevice⟩, fun hs' => hconnected hs' (hcon (hcurrent hs'))⟩
  | mark device => exact ⟨hrow device h.1, fun hs' => hconnected hs' (h.2 (hcurrent hs'))⟩
  | disconnect device => exact ⟨hrow device h.1, hnot h.2⟩

theorem Controller.Agrees.move (h : s.Agrees endpoint) (hc : c.endpoint = endpoint)
    (hphases : s'.phases = s.phases.insert c p') (hfits : p'.Fits endpoint s' c)
    (hrow : ∀ device, s.agents.RowOf endpoint device → s'.agents.RowOf endpoint device)
    (hregistry : ∀ c', s'.registry.lookup endpoint = some c' →
      c' = c ∨ s.registry.lookup endpoint = some c')
    (hconnected : ∀ c', c'.endpoint = endpoint → s'.current c' →
      s.connected endpoint → s'.connected endpoint)
    (hidentity : ∀ c' ≠ c, s'.reconciledDeviceID c' = s.reconciledDeviceID c')
    (hknown : ∀ device, s'.reconciledDeviceID c = some device → s'.agents.RowOf endpoint device)
    (hawake : s'.connected endpoint → s'.live endpoint ∨ Unsettled s')
    (halive : s'.live endpoint → s'.connected endpoint) : s'.Agrees endpoint where
  conns c' p hp := by
    rw [hphases] at hp
    rcases Assoc.lookup_of_insert hp with ⟨rfl, rfl⟩ | ⟨hne, hp⟩
    · exact ⟨hc, hfits⟩
    · obtain ⟨hendpoint, hother⟩ := h.conns c' p hp
      refine ⟨hendpoint, hother.frame hrow ?_ (hconnected c' hendpoint) (hidentity c' hne)⟩
      intro hcurrent
      rw [current, decide_eq_true_eq, hendpoint] at hcurrent ⊢
      exact (hregistry c' hcurrent).resolve_left hne
  registered c' hreg := by
    rcases hregistry c' hreg with rfl | hold
    · exact ⟨hc, by rw [hphases, lookup_insert]; rfl⟩
    · obtain ⟨hendpoint, hphase⟩ := h.registered c' hold
      refine ⟨hendpoint, ?_⟩
      rw [hphases, Assoc.lookup_insert_if]
      split
      · rfl
      · exact hphase
  known c' device hdevice := by
    by_cases heq : c' = c
    · subst heq
      exact hknown device hdevice
    · rw [hidentity c' heq] at hdevice
      exact hrow device (h.known c' device hdevice)
  awake := hawake
  alive := halive

/-- Another connection is still about to write, or this one was. -/
theorem Unsettled.move (h : Unsettled s) (hphases : s'.phases = s.phases.insert c p')
    (hidentity : ∀ c' ≠ c, s'.reconciledDeviceID c' = s.reconciledDeviceID c') :
    Unsettled s' ∨ ∃ p, s.phases.lookup c = some p ∧ p.unsettled s c := by
  obtain ⟨c', p, hp, huns⟩ := h
  by_cases heq : c' = c
  · exact .inr ⟨p, heq ▸ hp, heq ▸ huns⟩
  · refine .inl ⟨c', p, by rw [hphases, lookup_insert_ne heq]; exact hp, ?_⟩
    have hsame : s'.isReconciled c' = s.isReconciled c' := by
      rw [isReconciled, hidentity c' heq, isReconciled]
    cases p with
    | look => exact hsame.trans huns
    | _ => exact huns

theorem Unsettled.others (h : Unsettled s) (hphase : s.phases.lookup c = some p)
    (hp : p.unsettled s c = false) (hphases : s'.phases = s.phases.insert c p')
    (hidentity : ∀ c' ≠ c, s'.reconciledDeviceID c' = s.reconciledDeviceID c') : Unsettled s' := by
  refine (h.move hphases hidentity).resolve_right ?_
  rintro ⟨p₁, hp₁, huns⟩
  rw [hphase] at hp₁
  cases hp₁
  rw [hp] at huns
  nomatch huns

theorem unsettled_of_phase (hphases : s'.phases = s.phases.insert c p')
    (h : p'.unsettled s' c) : Unsettled s' :=
  ⟨c, p', by rw [hphases, lookup_insert], h⟩

theorem Controller.Agrees.goto (h : s.Agrees endpoint) (hc : c.endpoint = endpoint)
    (hfits : p'.Fits endpoint s c)
    (hsettled : ∀ p, s.phases.lookup c = some p → p.unsettled s c →
      p'.unsettled s c) : (s.goto c p').Agrees endpoint := by
  refine h.move hc rfl ?_ (fun _ hrow => hrow) (fun _ hreg => .inr hreg) (fun _ _ _ hcon => hcon)
    (fun _ _ => rfl) (fun device hdevice => h.known c device hdevice) ?_ h.alive
  · exact hfits.frame (fun _ hrow => hrow) (fun hcur => hcur) (fun _ hcon => hcon) rfl
  · intro hcon
    refine (h.awake hcon).imp_right fun huns => ?_
    have hmove : Unsettled (s.goto c p') ∨ _ := huns.move rfl fun _ _ => rfl
    rcases hmove with huns | ⟨p, hp, hup⟩
    · exact huns
    · exact unsettled_of_phase rfl (hsettled p hp hup)

/-! ### Steps -/

section Steps

variable (h : s.Agrees endpoint) (hc : c.endpoint = endpoint)

include h hc

theorem Controller.Agrees.identities {ids : AList fun _ : Conn => ConnIdentity}
    (hids : ∀ c' ≠ c, ids.lookup c' = s.identities.lookup c')
    (hcurrent : s.current c = false)
    (hfits : p'.Fits endpoint ({ s with identities := ids }.goto c p') c)
    (hnone : ∀ device, ({ s with identities := ids }.goto c p').reconciledDeviceID c ≠ some device)
    (hphase : s.phases.lookup c = some p) (hsettled : p.unsettled s c = false) :
    ({ s with identities := ids }.goto c p').Agrees endpoint := by
  have hidentity : ∀ c' ≠ c, ({ s with identities := ids }.goto c p').reconciledDeviceID c' =
      s.reconciledDeviceID c' := by
    intro c' hne
    show (ids.lookup c').bind _ = (s.identities.lookup c').bind _
    rw [hids c' hne]
  -- the registered connection is another one
  have hlive : ({ s with identities := ids }.goto c p').live endpoint = s.live endpoint := by
    show (s.registry.lookup endpoint).any _ = (s.registry.lookup endpoint).any _
    cases hreg : s.registry.lookup endpoint with
    | none => rfl
    | some c' =>
      have hne : c' ≠ c := by
        rintro rfl
        rw [current, hc, hreg, decide_eq_false_iff_not] at hcurrent
        exact hcurrent rfl
      show isSome _ = isSome _
      rw [hidentity c' hne]
  refine h.move hc rfl hfits (fun _ hrow => hrow) (fun _ hreg => .inr hreg) (fun _ _ _ hcon => hcon)
    hidentity (fun device hdevice => absurd hdevice (hnone device)) ?_ ?_
  · intro hcon
    rw [hlive]
    exact (h.awake hcon).imp_right fun huns => huns.others hphase hsettled rfl hidentity
  · intro hlive'
    exact h.alive (hlive ▸ hlive')

theorem agrees_register (hphase : s.phases.lookup c = some .register)
    (horderly : s.live c.endpoint = false) : ((s.add c).goto c .idle).Agrees endpoint := by
  obtain ⟨hnone, hcurrent⟩ := (h.conns c _ hphase).2
  have hdead : ((s.add c).goto c .idle).live endpoint = false := by
    show ((s.registry.insert c.endpoint c).lookup endpoint).any _ = false
    rw [hc, lookup_insert]
    show isSome (s.reconciledDeviceID c) = false
    rw [hnone]
    rfl
  refine h.move hc rfl trivial (fun _ hrow => hrow) ?_ (fun _ _ _ hcon => hcon) (fun _ _ => rfl)
    (fun device hdevice => h.known c device hdevice) ?_ (fun hlive => by rw [hdead] at hlive; nomatch hlive)
  · intro c' hreg
    refine .inl ?_
    have hreg : (s.registry.insert c.endpoint c).lookup endpoint = some c' := hreg
    rw [hc, lookup_insert] at hreg
    exact (Option.some.inj hreg).symm
  · intro hcon
    rcases h.awake hcon with hlive | huns
    · rw [← hc, horderly] at hlive
      nomatch hlive
    · exact .inr (huns.others hphase rfl rfl fun _ _ => rfl)

theorem agrees_link {device : String} {versions : List String} {agents' : UspAgents}
    (hlink : s.agents.link device c.endpoint c.kind versions = some agents') :
    ({ s with agents := agents' }.goto c .resolve).Agrees endpoint := by
  rw [hc] at hlink
  obtain ⟨⟨a, hfind, hdevice, hcon⟩, -⟩ := UspAgents.link_eq_some hlink
  have hconnected : ({ s with agents := agents' }.goto c .resolve).connected endpoint := by
    show (agents'.byEndpointID endpoint).any _
    rw [hfind]
    exact hcon
  have hrow : ∀ device, s.agents.RowOf endpoint device → agents'.RowOf endpoint device :=
    fun _ hrow => hrow.link hlink
  exact h.move hc rfl ⟨⟨device, a, hfind, hdevice⟩, fun _ => hconnected⟩ hrow
    (fun _ hreg => .inr hreg) (fun _ _ _ _ => hconnected) (fun _ _ => rfl)
    (fun device hdevice => hrow device (h.known c device hdevice))
    (fun _ => .inr (unsettled_of_phase rfl rfl)) (fun _ => hconnected)

theorem agrees_mark {device : String} (hphase : s.phases.lookup c = some (.mark device))
    (horderly : (s.current c || s.live c.endpoint)) :
    ({ s with identities := s.identities.insert c ⟨device, true⟩ }.goto c .idle).Agrees endpoint := by
  obtain ⟨hrow, hlinked⟩ := (h.conns c _ hphase).2
  have hlookup : ∀ c', ({ s with identities := s.identities.insert c ⟨device, true⟩ }.goto c
      .idle).reconciledDeviceID c' = if c' = c then some device else s.reconciledDeviceID c' := by
    intro c'
    show ((s.identities.insert c ⟨device, true⟩).lookup c').bind _ = _
    rw [Assoc.lookup_insert_if]
    split <;> rfl
  -- either this connection is the registered one, or a reconciled one already is
  have hlive : ({ s with identities := s.identities.insert c ⟨device, true⟩ }.goto c .idle).live
      endpoint := by
    refine live_eq_true_iff.mpr ?_
    rcases Bool.or_eq_true_iff.mp horderly with hcur | hlive
    · rw [current, decide_eq_true_eq, hc] at hcur
      exact ⟨c, hcur, by rw [isReconciled, hlookup, if_pos rfl]; rfl⟩
    · obtain ⟨c', hreg, hrec⟩ := live_eq_true_iff.mp (hc ▸ hlive)
      refine ⟨c', hreg, ?_⟩
      rw [isReconciled, hlookup]
      split
      · rfl
      · exact hrec
  have hconnected : s.connected endpoint := by
    rcases Bool.or_eq_true_iff.mp horderly with hcur | hlive
    · exact hlinked hcur
    · exact h.alive (hc ▸ hlive)
  refine h.move hc rfl trivial (fun _ hrow => hrow) (fun _ hreg => .inr hreg) (fun _ _ _ hcon => hcon)
    ?_ ?_ (fun _ => .inl hlive) (fun _ => hconnected)
  · intro c' hne
    rw [hlookup, if_neg hne]
  · intro device' hdevice
    rw [hlookup, if_pos rfl] at hdevice
    cases hdevice
    exact hrow

theorem agrees_goto (hphase : s.phases.lookup c = some p) (hfits : p'.Fits endpoint s c)
    (hsettled : p.unsettled s c → p'.unsettled s c) :
    (s.goto c p').Agrees endpoint := by
  refine h.goto hc hfits ?_
  intro p₁ hp₁ huns
  rw [hphase] at hp₁
  cases hp₁
  exact hsettled huns

/-- A registered connection is removed: its row still says connected if it was reconciled. -/
theorem agrees_remove (hphase : s.phases.lookup c = some .remove) :
    ((s.remove c).goto c (if s.current c then .look else .forget)).Agrees endpoint := by
  by_cases hcur : s.current c
  · have hreg : s.registry.lookup endpoint = some c := by
      rwa [current, decide_eq_true_eq, hc] at hcur
    rw [remove, if_pos hcur, if_pos hcur]
    have hgone : ∀ c', (s.registry.erase c.endpoint).lookup endpoint ≠ some c' := by
      simp [hc]
    have hnot : ∀ c', c'.endpoint = endpoint →
        ({ s with registry := s.registry.erase c.endpoint }.goto c .look).current c' = false := by
      intro c' hc'
      exact decide_eq_false (hc' ▸ hgone c')
    refine h.move hc rfl (hnot c hc) (fun _ hrow => hrow) (fun c' hreg' => absurd hreg' (hgone c'))
      (fun _ _ _ hcon => hcon) (fun _ _ => rfl) (fun device hdevice => h.known c device hdevice) ?_ ?_
    · intro hcon
      refine .inr ?_
      rcases h.awake hcon with hlive | huns
      · obtain ⟨c', hreg', hrec⟩ := live_eq_true_iff.mp hlive
        rw [hreg] at hreg'
        cases hreg'
        exact unsettled_of_phase rfl hrec
      · exact huns.others hphase rfl rfl fun _ _ => rfl
    · intro hlive
      obtain ⟨c', hreg', -⟩ := live_eq_true_iff.mp hlive
      exact absurd hreg' (hgone c')
  · rw [remove, if_neg hcur, if_neg hcur]
    exact agrees_goto h hc hphase (Bool.eq_false_iff.mpr hcur) nofun

theorem agrees_disconnect {device : String} (hphase : s.phases.lookup c = some (.disconnect device))
    (hnone : s.registry.lookup endpoint = none) :
    ({ s with agents := s.agents.markDisconnected device c.endpoint }.goto c .forget).Agrees
      endpoint := by
  obtain ⟨⟨a, hfind, hdevice⟩, hcurrent⟩ := (h.conns c _ hphase).2
  have hoff : ({ s with agents := s.agents.markDisconnected device c.endpoint }.goto c
      .forget).connected endpoint = false := by
    have hendpoint : a.endpointID = endpoint := by simpa using find?_some hfind
    show ((s.agents.markDisconnected device c.endpoint).byEndpointID endpoint).any _ = false
    rw [UspAgents.markDisconnected, UspAgents.byEndpointID_mapConnected, hfind]
    simp [hdevice, hendpoint, hc]
  have hrow : ∀ device', s.agents.RowOf endpoint device' →
      (s.agents.markDisconnected device c.endpoint).RowOf endpoint device' :=
    fun _ hrow => hrow.mapConnected
  have hdead : ∀ c', s.registry.lookup endpoint ≠ some c' := by
    intro c' hreg
    rw [hnone] at hreg
    nomatch hreg
  refine h.move hc rfl hcurrent hrow (fun _ hreg => .inr hreg) ?_ (fun _ _ => rfl)
    (fun device hdevice => hrow device (h.known c device hdevice))
    (fun hcon => by rw [hoff] at hcon; nomatch hcon) ?_
  · intro c' hendpoint hcur hcon
    have hreg : s.registry.lookup c'.endpoint = some c' := of_decide_eq_true hcur
    exact absurd (hendpoint ▸ hreg) (hdead c')
  · intro hlive
    obtain ⟨c', hreg, -⟩ := live_eq_true_iff.mp hlive
    exact absurd hreg (hdead c')

theorem agrees_next (hphase : s.phases.lookup c = some p)
    (horderly : (ConnAct.step c d).orderly s) : (s.next c d p).Agrees endpoint := by
  simp only [ConnAct.orderly, hphase] at horderly
  have hfits := (h.conns c p hphase).2
  cases p with
  | identify =>
    have hnone : ∀ device, ({ s with identities := s.identities.insert c {} }.goto c
        .register).reconciledDeviceID c ≠ some device := by
      intro device hdevice
      have hdevice : ((s.identities.insert c {}).lookup c).bind _ = some device := hdevice
      rw [lookup_insert] at hdevice
      nomatch hdevice
    refine h.identities hc (fun c' hne => lookup_insert_ne hne) hfits ⟨?_, hfits⟩ hnone hphase rfl
    exact eq_none_iff_forall_ne_some.mpr hnone
  | register =>
    exact agrees_register h hc hphase (by simpa using horderly)
  | idle => exact h
  | link device versions =>
    have hidle : (s.goto c .idle).Agrees endpoint :=
      agrees_goto h hc hphase trivial nofun
    cases hlink : s.agents.link device c.endpoint c.kind versions with
    | none =>
      simp only [Controller.next, hlink, map_none]
      exact hidle
    | some agents' =>
      simp only [Controller.next, hlink, map_some]
      cases d with
      | executed => exact agrees_link h hc hlink
      | refused => exact hidle
      | lost => nomatch horderly
  | resolve =>
    obtain ⟨⟨device, a, hfind, hdevice⟩, hlinked⟩ := hfits
    obtain rfl : d = .executed := by simpa using horderly
    simp only [Controller.next, hc, hfind]
    exact agrees_goto h hc hphase ⟨⟨a, hfind, rfl⟩, hlinked⟩ fun _ => rfl
  | mark device => exact agrees_mark h hc hphase horderly
  | remove => exact agrees_remove h hc hphase
  | look =>
    simp only [Controller.next]
    split
    next device hdevice =>
      exact agrees_goto h hc hphase ⟨h.known c device hdevice, hfits⟩ fun _ => rfl
    next hnone =>
      refine agrees_goto h hc hphase hfits fun huns => ?_
      have huns : (s.reconciledDeviceID c).isSome := huns
      rw [hnone] at huns
      nomatch huns
  | disconnect device =>
    obtain ⟨hd, hnone⟩ : d ≠ .refused ∧ s.registry.lookup endpoint = none := by
      rw [hc] at horderly
      simpa using horderly
    have hstate : (d.deliver () s.agents (s.agents.markDisconnected device c.endpoint)).2 =
        s.agents.markDisconnected device c.endpoint := by
      cases d with
      | refused => exact absurd rfl hd
      | _ => rfl
    simp only [Controller.next, hstate]
    exact agrees_disconnect h hc hphase hnone
  | forget =>
    refine h.identities hc (fun c' hne => lookup_erase_ne hne) hfits hfits ?_ hphase rfl
    intro device hdevice
    have hdevice : ((s.identities.erase c).lookup c).bind _ = some device := hdevice
    rw [lookup_erase] at hdevice
    nomatch hdevice
  | closed => exact h

end Steps

theorem agrees_act (h : s.Agrees endpoint) {a : ConnAct} (hc : a.conn.endpoint = endpoint)
    (horderly : a.orderly s) : (s.act a).Agrees endpoint := by
  have hsettled : ∀ {c : Conn} {p : Phase}, s.phases.lookup c = some .idle →
      Phase.unsettled s c .idle → p.unsettled s c := nofun
  cases a with
  | accept c =>
    simp only [act]
    split
    · exact h
    next hnew =>
      have hnew : s.phases.lookup c = none := by simpa using hnew
      refine h.goto hc ?_ fun p hp => by rw [hnew] at hp; nomatch hp
      refine Bool.eq_false_iff.mpr fun hcur => ?_
      have hreg : s.registry.lookup endpoint = some c := hc ▸ of_decide_eq_true hcur
      have hphase := (h.registered c hreg).2
      rw [hnew] at hphase
      nomatch hphase
  | receive c r =>
    simp only [act]
    split
    next hidle =>
      have hlink : ∀ device versions, (s.goto c (.link device versions)).Agrees endpoint :=
        fun device versions => agrees_goto h hc hidle trivial (hsettled hidle)
      cases r with
      | onBoardRequest device versions =>
        cases device with
        | none => exact h
        | some device => exact hlink device versions
      | probeResponse device =>
        cases device with
        | none => exact h
        | some device =>
          simp only [receive]
          split
          · exact h
          · exact hlink device []
    · exact h
  | close c =>
    simp only [act]
    split
    next hidle => exact agrees_goto h hc hidle trivial (hsettled hidle)
    · exact h
  | step c d =>
    simp only [act]
    split
    next p hphase => exact agrees_next h hc hphase horderly
    · exact h

theorem agrees_run (h : s.Agrees endpoint) {acts : List ConnAct}
    (hone : ∀ a ∈ acts, a.conn.endpoint = endpoint) (horderly : s.orderly acts) :
    (s.run acts).Agrees endpoint := by
  induction acts generalizing s with
  | nil => exact h
  | cons a acts ih =>
    obtain ⟨hfirst, hrest⟩ := Bool.and_eq_true_iff.mp horderly
    exact ih (agrees_act h (hone a mem_cons_self) hfirst)
      (fun b hb => hone b (mem_cons_of_mem _ hb)) hrest

theorem agrees_start (agents : UspAgents) (endpoint : String) :
    (start agents).Agrees endpoint where
  conns _ _ hphase := nomatch hphase
  registered _ hreg := nomatch hreg
  known _ _ hknown := nomatch hknown
  awake hcon := by
    rw [connected, start, UspAgents.resetConnected,
      UspAgents.byEndpointID_mapConnected] at hcon
    cases hrow : agents.byEndpointID endpoint with
    | none | some =>
      rw [hrow] at hcon
      nomatch hcon
  alive hlive := nomatch hlive

/-- Nothing is left to be written when no handler is running. -/
theorem not_unsettled_of_quiet (h : s.quiet) : ¬ Unsettled s := by
  rintro ⟨c, p, hphase, huns⟩
  have hentry : (⟨c, p⟩ : Sigma fun _ : Conn => Phase) ∈ s.phases.entries :=
    mem_lookup_iff.mp hphase
  have hnot := all_eq_true.mp h _ hentry
  cases p with
  | resolve | mark | disconnect | look => nomatch hnot
  | _ => nomatch huns

/-- In an orderly run of connections of one endpoint its row says connected exactly if the
registry has a reconciled connection of it, whenever no handler is running. -/
theorem connected_iff_live (agents : UspAgents) (endpoint : String) (acts : List ConnAct)
    (hone : ∀ a ∈ acts, a.conn.endpoint = endpoint)
    (horderly : (start agents).orderly acts = true)
    (hquiet : ((start agents).run acts).quiet = true) :
    ((start agents).run acts).connected endpoint = true ↔
      ((start agents).run acts).live endpoint = true := by
  have h := agrees_run (agrees_start agents endpoint) hone horderly
  constructor
  · intro hcon
    exact (h.awake hcon).resolve_right (not_unsettled_of_quiet hquiet)
  · exact h.alive

/-! ### Runs -/

def noAgents : UspAgents where
  rows := []
  device := nodup_nil
  endpoint := nodup_nil

/-- `n` steps of a connection, each answered. -/
def steps (c : Conn) (n : Nat) : List ConnAct :=
  List.replicate n (.step c .executed)

/-- A connection is accepted and says that it is the device `"d"`. -/
def arrives (c : Conn) : List ConnAct :=
  .accept c :: steps c 2 ++ .receive c (.onBoardRequest (some "d") []) :: steps c 3

def first : Conn := ⟨1, "e", .webSocket⟩

def second : Conn := ⟨2, "e", .webSocket⟩

/-- The second connection comes after the first is gone. -/
def oneAfterAnother : List ConnAct :=
  arrives first ++ .close first :: steps first 4 ++ arrives second

/-- The second connection comes while the first is going. -/
def overtaken : List ConnAct :=
  arrives first ++ .close first :: steps first 2 ++ arrives second ++ steps first 2

theorem connected_iff_live_oneAfterAnother :
    let s := (start noAgents).run oneAfterAnother
    s.quiet = true ∧ s.live "e" = true ∧ (s.connected "e" = true ↔ s.live "e" = true) :=
  ⟨by decide +kernel, by decide +kernel,
    connected_iff_live noAgents "e" oneAfterAnother (by decide +kernel) (by decide +kernel)
      (by decide +kernel)⟩

/-- The late write of the old connection: the agent is there, and its row says it is not. -/
theorem overtaken_not_connected :
    let s := (start noAgents).run overtaken
    (∀ a ∈ overtaken, a.conn.endpoint = "e") ∧ s.quiet = true ∧
      s.registry.lookup "e" = some second ∧ s.live "e" = true ∧ s.connected "e" = false := by
  decide +kernel

end Acs.Uspc
