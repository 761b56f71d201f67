/-
The operator's subscriber lookup (`internal/subscribers/subscribers.go`).

A row of the query is a device with its current mapping, the profile of the account it is
mapped to, if the device may show it, and its site.  The rows are searched, limited to the
customers of the operator, ranked and cut off.

Rows that an ORDER BY leaves equal come in the order of the table.
-/
import Acs.Bss.Mapping
import Acs.Jobs.Redaction
import Acs.Lib.Like
import Mathlib.Algebra.GroupWithZero.Nat

namespace Acs

open Text

/-- `=`, which is NULL if a side is. -/
def SqlBool.eq : Option String → Option String → SqlBool
  | some a, some b => some (a = b)
  | _, _ => none

/-- `= ANY` of an array without NULLs. -/
def SqlBool.eqAny (a : Option String) (l : List String) : SqlBool :=
  a.map (· ∈ l)

/-! ### Tables -/

/-- The columns of `devices` that the lookup reads. -/
structure SubscriberDevice where
  ouiSerial : String
  serialNumber : Option String := none
  manufacturer : Option String := none
  productClass : Option String := none
  label : Option String := none
  customerID : Option String := none
  siteID : Option String := none
  lastInformAt : Option Time := none

/-- A row of `account_profiles`, as far as it is read. -/
structure AccountProfile where
  displayName : Option String := none
  vip : Bool := false

/-- A row of `sites`, as far as it is read. -/
structure SubscriberSite where
  name : String
  street : Option String := none
  suburb : Option String := none
  city : Option String := none
  postalCode : Option String := none

structure SubscriberDb where
  devices : AList fun _ : String => SubscriberDevice
  mappings : List AccountDeviceMapping
  /-- `bss_accounts`: the owner of an account. -/
  bssAccounts : AList fun _ : String => String
  profiles : AList fun _ : String => AccountProfile
  sites : AList fun _ : String => SubscriberSite

/-! ### `summaryQuery` -/

/-- A joined row. -/
structure SubscriberRow where
  deviceID : String
  device : SubscriberDevice
  accountID : Option String
  profile : Option AccountProfile
  site : Option SubscriberSite

/-- `ORDER BY (role = 'gateway') DESC, assigned_at DESC` -/
def AccountDeviceMapping.preferred (a b : AccountDeviceMapping) : Bool :=
  if decide (a.role = .gateway) = decide (b.role = .gateway) then b.assignedAt ≤ a.assignedAt
  else a.role = .gateway

namespace SubscriberDb

variable (db : SubscriberDb)

/-- The lateral join: the account of the mapping of a device that comes first. -/
def accountOf (deviceID : String) : Option String :=
  ((db.mappings.filter fun m => m.deviceID = deviceID ∧ m.current).insertionSort
    (AccountDeviceMapping.preferred · ·)).head?.map (·.accountID)

/-- The devices that are mapped to an account now. -/
def mappedDevices (accountID : String) : List SubscriberDevice :=
  (db.mappings.filter fun m => m.accountID = accountID ∧ m.current).filterMap fun m =>
    db.devices.lookup m.deviceID

/-- The condition on `account_profiles` beside the account: its owner is the customer of
the device, or it has none and no other customer's device is mapped to it. -/
def showsProfile (accountID : String) (customerID : Option String) : SqlBool :=
  let owner := db.bssAccounts.lookup accountID
  SqlBool.or (SqlBool.eq owner customerID)
    (SqlBool.and (some owner.isNone)
      (some (!(db.mappedDevices accountID).any fun d => d.customerID ≠ customerID)))

def profileFor (accountID customerID : Option String) : Option AccountProfile :=
  accountID.bind fun a =>
    if db.showsProfile a customerID = some true then db.profiles.lookup a else none

def row (deviceID : String) (d : SubscriberDevice) : SubscriberRow where
  deviceID := deviceID
  device := d
  accountID := db.accountOf deviceID
  profile := db.profileFor (db.accountOf deviceID) d.customerID
  site := d.siteID.bind db.sites.lookup

end SubscriberDb

/-! ### `Lookup` -/

/-- What the code calls of Go and of the database: lower case in each, and the last four
bytes of a longer text. -/
structure LookupEnv where
  (toLower lower lastFour : String → String)

structure LookupParams where
  query : String
  vipOnly : Bool := false
  customerIDs : List String := []
  isScoped : Bool := false
  limit : Int := 0

structure SummarySite where
  (name street suburb city postalCode : String)

inductive MatchKind where
  | serial | account | name | label | address

/-- What `scanRows` makes of a row. -/
structure ScannedRow where
  (deviceID accountID : String)
  subscriberName : Option String
  vip : Bool
  site : Option SummarySite
  (ouiSerial serial manufacturer model : String)
  label : Option String

structure LookupHit where
  (deviceID accountID : String)
  subscriberName : Option String
  vip : Bool
  site : Option SummarySite
  (displayName ouiSerial manufacturer model : String)
  label : Option String
  matched : List MatchKind
  score : Nat

def SubscriberRow.scan (r : SubscriberRow) : ScannedRow where
  deviceID := r.deviceID
  accountID := r.accountID.getD ""
  subscriberName := r.profile.bind (·.displayName)
  vip := (r.profile.map (·.vip)).getD false
  site := r.site.map fun s =>
    ⟨s.name, s.street.getD "", s.suburb.getD "", s.city.getD "", s.postalCode.getD ""⟩
  ouiSerial := r.device.ouiSerial
  serial := r.device.serialNumber.getD ""
  manufacturer := r.device.manufacturer.getD ""
  model := r.device.productClass.getD ""
  label := r.device.label.filter (trimSpace · ≠ "")

namespace Lookup

def maxLookupResults : Nat := 50

variable (env : LookupEnv)

/-- Which unit: the model, or else the manufacturer, and the end of the serial number. -/
def unit (x : ScannedRow) : String :=
  let model := trimSpace x.model
  let unit := if model = "" then x.manufacturer else model
  if 4 < x.serial.utf8ByteSize then unit ++ " …" ++ env.lastFour x.serial
  else if x.serial ≠ "" then unit ++ " " ++ x.serial
  else unit

def displayName (x : ScannedRow) : String :=
  let who := (x.subscriberName.or x.label).toList
  let account := if x.accountID ≠ "" then [x.accountID] else []
  let place := match x.site with
    | none => []
    | some s => if s.suburb ≠ "" then [s.suburb] else if s.city ≠ "" then [s.city] else []
  let parts := who ++ account ++ place
  if parts = [] then x.ouiSerial
  else join (parts ++ [trimSpace (unit env x)]) " · "

/-- The words of a query, six at most. -/
def words (query : String) : List String :=
  (fields (env.toLower query)).take 6

section

variable (p : LookupParams) (r : SubscriberRow)

/-- `lower(concat_ws(' ', …))`: the columns that are not NULL. -/
def haystack : String :=
  env.lower (join ([some r.device.ouiSerial, r.device.label, r.accountID,
    r.profile.bind (·.displayName), r.site.map (·.name), r.site.bind (·.street),
    r.site.bind (·.suburb), r.site.bind (·.city), r.site.bind (·.postalCode)].filterMap id) " ")

/-- The row has the word: `LIKE '%word%' ESCAPE '\'`, with the word escaped. -/
def hasWord (w : String) : Bool :=
  Like.like '\\' ('%' :: (Like.escape '\\' w.toList ++ ['%'])) (haystack env r).toList

/-- The conditions of WHERE. -/
def conditions : List SqlBool :=
  ((words env p.query).map fun w => some (hasWord env r w)) ++
  (if p.vipOnly then [r.profile.map (·.vip)] else []) ++
  (if p.isScoped then [SqlBool.eqAny r.device.customerID p.customerIDs] else [])

def accepts : Bool :=
  (conditions env p r).foldr SqlBool.and (some true) = some true

/-- `last_inform_at DESC NULLS LAST` -/
def informedAfter (a b : SubscriberRow) : Bool :=
  match a.device.lastInformAt, b.device.lastInformAt with
  | _, none => true
  | none, some _ => false
  | some s, some t => t ≤ s

/-- The rows of the query. -/
def rows (db : SubscriberDb) : List SubscriberRow :=
  ((db.devices.entries.filterMap fun e =>
    Option.guard (accepts env p ·) (db.row e.1 e.2)).insertionSort (informedAfter · ·)).take 200

/-- What a field counts for the rank of a hit. -/
def weight : MatchKind → Nat
  | .account => 40
  | .serial => 30
  | .name => 20
  | .label => 15
  | .address => 10

def address (s : SummarySite) : String :=
  join [s.name, s.street, s.suburb, s.city, s.postalCode] " "

/-- The body of the loop over the rows. -/
def hit (query : String) (words : List String) (x : ScannedRow) : LookupHit :=
  let has (field : String) : Bool := words.any fun w => contains (env.toLower field) w
  let q := env.toLower (trimSpace query)
  let matched : List MatchKind :=
    (if x.accountID ≠ "" ∧ has x.accountID then [.account] else []) ++
    (if has x.ouiSerial then [.serial] else []) ++
    (if x.subscriberName.any has then [.name] else []) ++
    (if x.label.any has then [.label] else []) ++
    (if x.site.any fun s => has (address s) then [.address] else [])
  { deviceID := x.deviceID, accountID := x.accountID, subscriberName := x.subscriberName,
    vip := x.vip, site := x.site, displayName := displayName env x, ouiSerial := x.ouiSerial,
    manufacturer := x.manufacturer, model := x.model, label := x.label, matched,
    score := (if q ≠ "" ∧ (env.toLower x.accountID = q ∨
          hasSuffix (env.toLower x.ouiSerial) q) then 100 else 0) +
        (matched.map weight).sum + (if x.vip then 1 else 0) }

def lookup (db : SubscriberDb) : List LookupHit :=
  let ws := words env p.query
  if ws = [] ∧ !p.vipOnly then []
  else
    let limit := if p.limit ≤ 0 ∨ maxLookupResults < p.limit then maxLookupResults
      else p.limit.toNat
    (((rows env p db).map fun r => hit env p.query ws r.scan).insertionSort
      (·.score ≥ ·.score)).take limit

end

end Lookup

end Acs
