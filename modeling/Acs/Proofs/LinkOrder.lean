/-
The order of a report and a registration.

`LinkGateway` looks for the reported gateway by its natural key, and then for the one other
device with the reported OUI and serial number.  `AdoptSatellites` goes by the natural key
alone and leaves satellites with a link as they are.  So the order matters where these
differ: if the report has another product class than the gateway, or if a third device with
the same OUI and serial number was found first.
-/
import Acs.Site.MeshLink

namespace Acs.MeshLink

open List MeshLink.Device

section Orders

variable (upper : String → String) (rows : List Device) (deviceID uuid : String)
  (reported gateway : Inform)

/-- The gateway stored for a device. -/
def gatewayOf : Option String :=
  (rows.find? (·.id = deviceID)).bind (·.gatewayDeviceID)

/-- The gateway of a satellite whose report is processed before the gateway registers. -/
def reportFirst : Option String :=
  gatewayOf (bootstrap upper (linkGateway upper rows deviceID reported).2 uuid gateway) deviceID

def gatewayFirst : Option String :=
  gatewayOf (linkGateway upper (bootstrap upper rows uuid gateway) deviceID reported).2 deviceID

/-- The order does not matter: the gateway or the reported device is registered already, or
nobody is found by OUI and serial number, with the gateway or without it. -/
def OrderFree : Prop :=
  (∃ d ∈ rows, d.ouiSerial = gateway.naturalKey upper) ∨ byKey upper rows deviceID reported ≠ [] ∨
    if reported.naturalKey upper = gateway.naturalKey upper then
      (bySerial rows deviceID reported).length ≠ 1
    else 2 ≤ (bySerial rows deviceID reported).length

end Orders

/-! ### The columns that a link leaves alone -/

/-- The columns that a device is found by. -/
def Device.Same (d d' : Device) : Prop :=
  d'.id = d.id ∧ d'.ouiSerial = d.ouiSerial ∧ d'.oui = d.oui ∧ d'.serialNumber = d.serialNumber

theorem same_relink (deviceID : String) (key resolved : Option String) (d : Device) :
    d.Same (d.relink deviceID key resolved) := by
  unfold relink
  split <;> exact ⟨rfl, rfl, rfl, rfl⟩

theorem same_adopt (gateway d : Device) : d.Same (gateway.adopt d) := by
  unfold adopt
  split <;> exact ⟨rfl, rfl, rfl, rfl⟩

section Rows

variable {upper : String → String} {rows : List Device} {f : Device → Device}
  {deviceID uuid : String} {reported gateway : Inform} {sat : Device}

theorem find_upsertFromInform (hsat : rows.find? (·.id = deviceID) = some sat) :
    (upsertFromInform upper rows uuid gateway).2.find? (·.id = deviceID) = some sat := by
  unfold upsertFromInform
  split
  · exact hsat
  · rw [find?_append, hsat]
    rfl

section Map

variable (hf : ∀ d : Device, d.Same (f d))

include hf

theorem select_map {p : Device → Bool} (hp : ∀ d, p (f d) = p d) :
    select (rows.map f) p = select rows p := by
  rw [select, filter_map, map_map, select, show p ∘ f = p from funext hp]
  exact map_congr_left fun d _ => (hf d).1

theorem resolveGateway_map :
    resolveGateway upper (rows.map f) deviceID reported =
      resolveGateway upper rows deviceID reported := by
  have hkey : byKey upper (rows.map f) deviceID reported = byKey upper rows deviceID reported :=
    select_map hf fun d => by rw [(hf d).1, (hf d).2.1]
  have hserial : bySerial (rows.map f) deviceID reported = bySerial rows deviceID reported :=
    select_map hf fun d => by rw [(hf d).1, (hf d).2.2.1, (hf d).2.2.2]
  rw [resolveGateway, hkey, hserial, resolveGateway]

theorem find_map (hsat : rows.find? (·.id = deviceID) = some sat) :
    (rows.map f).find? (·.id = deviceID) = some (f sat) := by
  have hid : (fun d : Device => decide (d.id = deviceID)) ∘ f = (decide <| ·.id = deviceID) :=
    funext fun d => by rw [Function.comp, (hf d).1]
  rw [find?_map, hid, hsat]
  rfl

theorem same_upsertFromInform : (upsertFromInform upper rows uuid gateway).1.Same
    (upsertFromInform upper (rows.map f) uuid gateway).1 := by
  have hkey : (fun d : Device => decide (d.ouiSerial = gateway.naturalKey upper)) ∘ f =
      (decide <| ·.ouiSerial = gateway.naturalKey upper) :=
    funext fun d => by rw [Function.comp, (hf d).2.1]
  unfold upsertFromInform
  rw [find?_map, hkey]
  cases rows.find? (·.ouiSerial = gateway.naturalKey upper) with
  | some g => exact hf g
  | none => exact ⟨rfl, rfl, rfl, rfl⟩

end Map

theorem relink_self (hid : sat.id = deviceID) (key resolved : Option String) :
    sat.relink deviceID key resolved =
      { sat with gatewayOUISerial := key, gatewayDeviceID := resolved } := by
  unfold relink stale
  split
  · rfl
  next h =>
    obtain ⟨rfl, rfl⟩ : sat.gatewayOUISerial = key ∧ sat.gatewayDeviceID = resolved := by
      simpa [hid] using h
    rfl

/-! ### The two orders -/

theorem resolveGateway_none (hkey : byKey upper rows deviceID reported = [])
    (hserial : (bySerial rows deviceID reported).length ≠ 1) :
    resolveGateway upper rows deviceID reported = none := by
  rw [resolveGateway, hkey]
  dsimp only
  split
  next id h =>
    have := congrArg length h
    rw [length_take, length_singleton] at this
    omega
  · rfl

theorem select_append {p : Device → Bool} {d : Device} :
    select (rows ++ [d]) p = select rows p ++ select [d] p := by
  rw [select, filter_append, map_append, select, select]

theorem resolveGateway_found (hkey : byKey upper rows deviceID reported ≠ []) :
    resolveGateway upper rows deviceID reported ≠ none := by
  obtain ⟨id, rest, hids⟩ := exists_cons_of_ne_nil hkey
  rw [resolveGateway, hids]
  nofun

/-- The one device with the reported OUI and serial number is in the table. -/
theorem resolveGateway_one (hkey : byKey upper rows deviceID reported = [])
    (hserial : (bySerial rows deviceID reported).length = 1) :
    ∃ d ∈ rows, resolveGateway upper rows deviceID reported = some d.id := by
  obtain ⟨id, hids⟩ := length_eq_one_iff.mp hserial
  have hid : id ∈ bySerial rows deviceID reported := hids ▸ mem_singleton_self id
  obtain ⟨d, hd, rfl⟩ := mem_map.mp hid
  exact ⟨d, (mem_filter.mp hd).1, by rw [resolveGateway, hkey, hids]; rfl⟩

/-- One more device with the reported OUI and serial number, but another key, makes no difference
exactly if there are two. -/
theorem resolveGateway_other_iff {rows' : List Device} {id : String}
    (hkey : byKey upper rows deviceID reported = [])
    (hkey' : byKey upper rows' deviceID reported = [])
    (hserial : bySerial rows' deviceID reported = bySerial rows deviceID reported ++ [id]) :
    resolveGateway upper rows deviceID reported = resolveGateway upper rows' deviceID reported ↔
      2 ≤ (bySerial rows deviceID reported).length := by
  refine ⟨fun h => ?_, fun htwo => ?_⟩
  · by_contra hfew
    rcases (by omega : (bySerial rows deviceID reported).length = 0 ∨
      (bySerial rows deviceID reported).length = 1) with hnone | hone
    · rw [resolveGateway_none hkey (by omega), resolveGateway, hkey', hserial,
        length_eq_zero_iff.mp hnone] at h
      cases h
    · obtain ⟨d, -, hresolved⟩ := resolveGateway_one hkey hone
      rw [hresolved, resolveGateway_none hkey' (by simp [hserial, hone])] at h
      cases h
  · rw [resolveGateway_none hkey (by omega), resolveGateway_none hkey']
    rw [hserial, length_append]
    omega

/-- What the registered gateway adds to the search is what adoption gives, exactly if the order
does not matter. -/
theorem resolveGateway_upsert_iff {g : Device} {rows' : List Device} (hsat : deviceID ≠ uuid)
    (huuid : ∀ d ∈ rows, d.id ≠ uuid) (hserial : gateway.serialNumber = reported.serialNumber)
    (houi : plainOUI (some gateway.oui) = reported.oui)
    (hup : upsertFromInform upper rows uuid gateway = (g, rows')) :
    (if reported.naturalKey upper = g.ouiSerial ∧
        resolveGateway upper rows deviceID reported = none ∧ deviceID ≠ g.id
      then some g.id else resolveGateway upper rows deviceID reported) =
        resolveGateway upper rows' deviceID reported ↔
      OrderFree upper rows deviceID reported gateway := by
  unfold upsertFromInform at hup
  cases hreg : rows.find? (·.ouiSerial = gateway.naturalKey upper) with
  | some d =>
    -- A report with the key of a registered gateway has found it.
    rw [hreg] at hup
    cases hup
    refine iff_of_true (if_neg fun h => resolveGateway_found ?_ h.2.1)
      (.inl ⟨g, mem_of_find?_eq_some hreg, by simpa using find?_some hreg⟩)
    refine ne_nil_of_mem (mem_map_of_mem (mem_filter.mpr ⟨mem_of_find?_eq_some hreg, ?_⟩))
    simp [h.1, Ne.symm h.2.2]
  | none =>
    rw [hreg] at hup
    obtain ⟨hg, rfl⟩ : g = ⟨uuid, gateway.naturalKey upper, some gateway.oui,
        some gateway.serialNumber, none, none⟩ ∧ rows' = rows ++ [g] := by
      cases hup
      exact ⟨rfl, rfl⟩
    have hnew : ¬ ∃ d ∈ rows, d.ouiSerial = gateway.naturalKey upper := fun ⟨g, hg, hkey⟩ =>
      find?_eq_none.mp hreg g hg (decide_eq_true hkey)
    by_cases hkey : byKey upper rows deviceID reported = []
    · rw [OrderFree, or_iff_right hnew, or_iff_right (not_not.mpr hkey)]
      by_cases hsame : reported.naturalKey upper = gateway.naturalKey upper
      · have hfound : resolveGateway upper (rows ++ [g]) deviceID reported = some g.id := by
          rw [resolveGateway, byKey, select_append, ← byKey, hkey]
          simp [select, hg, hsame, hsat.symm]
        rw [hfound, if_pos hsame]
        refine ⟨fun h hone => ?_, fun hserial =>
          if_pos ⟨by rw [hg, hsame], resolveGateway_none hkey hserial, by rwa [hg]⟩⟩
        obtain ⟨d, hd, hresolved⟩ := resolveGateway_one hkey hone
        rw [hresolved, if_neg fun h => nomatch h.2.1] at h
        exact huuid d hd (by rw [Option.some.inj h, hg])
      · have hkey' : byKey upper (rows ++ [g]) deviceID reported = [] := by
          rw [byKey, select_append, ← byKey, hkey]
          simp [select, hg, Ne.symm hsame]
        have hserial' : (bySerial (rows ++ [g]) deviceID reported) =
            bySerial rows deviceID reported ++ [g.id] := by
          rw [bySerial, select_append, ← bySerial]
          simp [select, hg, hserial, houi, hsat.symm]
        rw [if_neg fun h => hsame (by rw [h.1, hg]), if_neg hsame]
        exact resolveGateway_other_iff hkey hkey' hserial'
    · refine iff_of_true ?_ (.inr (.inl hkey))
      rw [if_neg fun h => resolveGateway_found hkey h.2.1]
      obtain ⟨id, rest, hids⟩ := exists_cons_of_ne_nil hkey
      rw [resolveGateway, hids, resolveGateway, byKey, select_append, ← byKey, hids]
      rfl

end Rows

/-- A satellite has the same gateway in the end, whether its report is processed before the
gateway with the reported OUI and serial number registers or after it, exactly if `OrderFree`. -/
theorem link_order_free_iff (upper : String → String) {rows : List Device} {deviceID uuid : String}
    {reported gateway : Inform} (hsat : ∃ d ∈ rows, d.id = deviceID)
    (huuid : ∀ d ∈ rows, d.id ≠ uuid) (hserial : gateway.serialNumber = reported.serialNumber)
    (houi : plainOUI (some gateway.oui) = reported.oui) :
    reportFirst upper rows deviceID uuid reported gateway =
        gatewayFirst upper rows deviceID uuid reported gateway ↔
      OrderFree upper rows deviceID reported gateway := by
  obtain ⟨d, hd, hid⟩ := hsat
  obtain ⟨sat, hsat⟩ : ∃ sat, rows.find? (·.id = deviceID) = some sat :=
    Option.isSome_iff_exists.mp (find?_isSome.mpr ⟨d, hd, by simpa using hid⟩)
  have hid' : sat.id = deviceID := by simpa using find?_some hsat
  have hlink := same_relink deviceID (some (reported.naturalKey upper))
    (resolveGateway upper rows deviceID reported)
  have hadopt := same_adopt (upsertFromInform upper rows uuid gateway).1
  have hg : (upsertFromInform upper rows uuid gateway).1.Same _ := same_upsertFromInform hlink
  rw [← resolveGateway_upsert_iff (hid ▸ huuid d hd) huuid hserial houi Prod.mk.eta.symm]
  simp only [reportFirst, gatewayFirst, gatewayOf, linkGateway, bootstrap, adoptSatellites, Option.map_some, Option.bind_some]
  rw [find_map (same_adopt _) (find_upsertFromInform (find_map hlink hsat)),
    find_map (same_relink _ _ _) (find_map hadopt (find_upsertFromInform hsat)),
    relink_self hid', relink_self ((hadopt sat).1.trans hid'), resolveGateway_map hadopt,
    Option.bind_some, Option.bind_some]
  refine Eq.congr ?_ rfl
  rw [← hg.1, ← hg.2.1]
  unfold adopt waits
  simp only [hid', Option.some.injEq, Bool.and_eq_true, decide_eq_true_eq]
  split_ifs <;> rfl

/-- A satellite and nobody else. -/
def satellite : Device :=
  { id := "s", ouiSerial := "A+2", oui := some "A", serialNumber := some "2" }

theorem link_order_free_iff_alone :
    reportFirst id [satellite] "s" "g" ⟨"A", "P", "1", [], []⟩ ⟨"A", "P", "1", [], []⟩ =
      gatewayFirst id [satellite] "s" "g" ⟨"A", "P", "1", [], []⟩ ⟨"A", "P", "1", [], []⟩ :=
  (link_order_free_iff id (by decide) (by decide) rfl (by decide)).mpr (.inr (.inr (by decide)))

/-- If the report has another product class, only a gateway that is there already is found. -/
theorem link_order_matters :
    reportFirst id [satellite] "s" "g" ⟨"A", "P", "1", [], []⟩ ⟨"A", "Q", "1", [], []⟩ = none ∧
      gatewayFirst id [satellite] "s" "g" ⟨"A", "P", "1", [], []⟩ ⟨"A", "Q", "1", [], []⟩ =
        some "g" := by
  decide +kernel

end Acs.MeshLink
