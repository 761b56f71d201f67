/-
The gateway of a mesh satellite (`internal/devices/gateway_link.go`).

A satellite reports the DeviceId of its gateway; `LinkGateway` stores it with the device that
it resolves to.  A gateway that comes later adopts the satellites that wait for it, on its
BOOTSTRAP Inform (`handleInform`).  Statements go through; what a failed one leaves is the
table as it was.
-/
import Acs.Site.Gateway

namespace Acs.MeshLink

open List

/-- A row of `devices`, with the columns that links are made of. -/
structure Device where
  (id ouiSerial : String)
  (oui serialNumber : Option String)
  gatewayOUISerial : Option String := none
  gatewayDeviceID : Option String := none

/-- `SELECT id FROM devices WHERE ..`. -/
def select (rows : List Device) (p : Device → Bool) : List String :=
  (rows.filter p).map (·.id)

/-- `upper(regexp_replace(COALESCE(oui, ''), '[^0-9A-Za-z]', '', 'g'))`. -/
def plainOUI (oui : Option String) : String :=
  String.ofList (((oui.getD "").toList.filter Char.isAlphanum).map Char.toUpper)

section Model

variable (upper : String → String) (rows : List Device) (deviceID : String)

/-- The other devices with the OUI and the serial number of the gateway. -/
def bySerial (gateway : Inform) : List String :=
  select rows fun d => d.serialNumber = some gateway.serialNumber &&
    (plainOUI d.oui = gateway.oui && d.id ≠ deviceID)

/-- The other devices with its natural key. -/
def byKey (gateway : Inform) : List String :=
  select rows fun d => d.ouiSerial = gateway.naturalKey upper && d.id ≠ deviceID

/-- `resolveGateway`. -/
def resolveGateway (gateway : Inform) : Option String :=
  match byKey upper rows deviceID gateway with
  | id :: _ => some id
  | [] =>
    match (bySerial rows deviceID gateway).take 2 with
    | [id] => some id
    | _ => none

/-- The row is the device's and has another link. -/
def Device.stale (deviceID : String) (key resolved : Option String) (d : Device) : Bool :=
  d.id = deviceID && (d.gatewayOUISerial ≠ key || d.gatewayDeviceID ≠ resolved)

def Device.relink (deviceID : String) (key resolved : Option String) (d : Device) : Device :=
  if d.stale deviceID key resolved then
    { d with gatewayOUISerial := key, gatewayDeviceID := resolved }
  else d

structure GatewayLink where
  gatewayOUISerial : String
  gatewayDeviceID : Option String
  changed : Bool

/-- `LinkGateway`; without a gateway the link is cleared. -/
def linkGateway (gateway : Option Inform) : GatewayLink × List Device :=
  let key := gateway.map (·.naturalKey upper)
  let resolved := gateway.bind (resolveGateway upper rows deviceID)
  (⟨key.getD "", resolved, rows.any (Device.stale deviceID key resolved)⟩,
    rows.map (Device.relink deviceID key resolved))

/-- The row has reported the gateway and has no link. -/
def Device.waits (gateway d : Device) : Bool :=
  d.gatewayOUISerial = some gateway.ouiSerial && (d.gatewayDeviceID = none && d.id ≠ gateway.id)

def Device.adopt (gateway d : Device) : Device :=
  if gateway.waits d then { d with gatewayDeviceID := some gateway.id } else d

/-- `AdoptSatellites`, with the number of satellites linked. -/
def adoptSatellites (gateway : Device) : Nat × List Device :=
  (rows.countP gateway.waits, rows.map gateway.adopt)

/-- `UpsertFromInform`: the row with the natural key, or else a new one. -/
def upsertFromInform (uuid : String) (i : Inform) : Device × List Device :=
  match rows.find? (·.ouiSerial = i.naturalKey upper) with
  | some d => (d, rows)
  | none =>
    let d : Device :=
      { id := uuid, ouiSerial := i.naturalKey upper, oui := some i.oui,
        serialNumber := some i.serialNumber }
    (d, rows ++ [d])

/-- What a BOOTSTRAP Inform with a normalised DeviceId does to the table. -/
def bootstrap (uuid : String) (i : Inform) : List Device :=
  let (device, rows) := upsertFromInform upper rows uuid i
  (adoptSatellites rows device).2

end Model

end Acs.MeshLink
