/-
The secret store (`internal/secretstore/secretstore.go`, migration 0092).

A secret is sealed when it is stored and opened when the gateway sends it.  Each
method of the store is one SQL statement with pure code around it, so the statements of
`Call` are the methods themselves.

The text form of a uuid is whatever PostgreSQL makes of it.  Each row remembers the number
of the insert that made it, for the proofs only.
-/
import Acs.Lib.Keyed
import Acs.Lib.Pool

namespace Acs

open List

/-! ### The cipher -/

/-- An authenticated cipher with associated data. -/
structure Aead (Key : Type) where
  nonceSize : Nat
  sealValue : Key → List Char → String → String → List Char
  openValue : Key → List Char → List Char → String → Option String
  /-- What was sealed opens under the same key, nonce and associated data. -/
  open_seal : ∀ key nonce plain data,
    openValue key nonce (sealValue key nonce plain data) data = some plain
  /-- It opens under no other key or data, and to nothing else. -/
  authentic : ∀ key key' nonce plain plain' data data',
    openValue key' nonce (sealValue key nonce plain data) data' = some plain' →
      key' = key ∧ data' = data ∧ plain' = plain

/-- The additional data of a sealed value. -/
def additionalData (id owner : String) : String := id ++ "\x00" ++ owner

/-! ### The table -/

structure SecretRow where
  id : String
  /-- NULL for a global client. -/
  customerID : Option String
  sealed : List Char
  deviceID : Option String := none
  expiresAt : Int
  /-- The number of the insert that stored the row. -/
  put : Nat

/-- The rows of `bss_secrets`, in the order of their inserts. -/
structure SecretTable where
  rows : List SecretRow
  puts : Nat
  ids : (rows.map (·.id)).Nodup
  numbered : (rows.map (·.put)).Nodup
  bounded : ∀ row ∈ rows, row.put < puts

namespace SecretTable

def empty : SecretTable := ⟨[], 0, List.nodup_nil, List.nodup_nil, by simp⟩

section

variable (t : SecretTable) (p : SecretRow → Bool) (deviceID : String)

def find (id : String) : Option SecretRow :=
  t.rows.find? (·.id = id)

/-- INSERT; the primary key refuses an id that is in use. -/
def insert (id : String) (customerID : Option String) (sealed : List Char)
    (expiresAt : Int) : Option SecretTable :=
  if h : id ∈ t.rows.map (·.id) then none
  else some
    { rows := t.rows ++ [{ id, customerID, sealed, expiresAt, put := t.puts }]
      puts := t.puts + 1
      ids := by
        rw [map_append]
        exact t.ids.append (nodup_singleton _) (by simpa using h)
      numbered := by
        have hnew : t.puts ∉ t.rows.map (·.put) := by
          intro hmem
          obtain ⟨row, hrow, hput⟩ := mem_map.mp hmem
          have := t.bounded row hrow
          omega
        rw [map_append]
        exact t.numbered.append (nodup_singleton _) (by simpa using hnew)
      bounded := by
        intro row hrow
        rcases mem_append.mp hrow with hrow | hrow
        · have := t.bounded row hrow
          omega
        · simp [mem_singleton.mp hrow] }

/-- UPDATE of the device of the rows that satisfy a condition. -/
def claim : SecretTable where
  rows := t.rows.map fun row => if p row then { row with deviceID := some deviceID } else row
  puts := t.puts
  ids := by
    rw [Keyed.map_key_map (fun row => by split <;> rfl)]
    exact t.ids
  numbered := by
    rw [Keyed.map_key_map (fun row => by split <;> rfl)]
    exact t.numbered
  bounded := by
    intro row hrow
    obtain ⟨old, hold, rfl⟩ := mem_map.mp hrow
    split <;> exact t.bounded old hold

/-- DELETE of the rows that satisfy a condition. -/
def delete : SecretTable where
  rows := t.rows.filter (!p ·)
  puts := t.puts
  ids := t.ids.sublist (filter_sublist.map _)
  numbered := t.numbered.sublist (filter_sublist.map _)
  bounded := fun row hrow => t.bounded row (mem_filter.mp hrow).1

end

end SecretTable

/-- The secrets and the clock. -/
structure SecretWorld where
  table : SecretTable
  /-- `now()`, in microseconds. -/
  now : Int

def SecretWorld.init : SecretWorld := ⟨.empty, 0⟩

structure SecretChoice where
  /-- The time since the last statement. -/
  elapsed : Nat := 0
  delivery : Delivery := .executed

/-! ### The methods -/

/-- A call of a method of the store, with the random bytes it draws. -/
inductive SecretCall (Key : Type) where
  | put (key : Option Key) (owner value : String) (ttl : Int) (raw : String) (nonce : List Char)
  | check (key : Option Key) (id owner : String)
  | claim (key : Option Key) (id owner deviceID : String)
  | open (key : Option Key) (id deviceID : String)
  | discard (key : Option Key) (id owner : String)
  | sweep

/-- `Handle`. -/
structure Handle where
  id : String
  expiresAt : Int

def SecretCall.Res {Key : Type} : SecretCall Key → Type
  | .put .. => Except String Handle
  | .check .. | .claim .. => Except String Unit
  | .open .. => Except String String
  | .discard .. => Except String Bool
  | .sweep => Except String Nat

def errDisabled : String := "secret store disabled: ACS_BSS_SECRET_KEY is not set"
def errInvalidHandle : String := "secret handle unknown, expired or already used"
def errHandleGone : String := "secret handle already used or expired"

section Store

variable {Key : Type} (aead : Aead Key) (uuid : String → Option String)

/-- `NULLIF($2, '')::uuid`: `none` if the text is not a uuid. -/
def customerOf (owner : String) : Option (Option String) :=
  if owner = "" then some none else (uuid owner).map some

/-- A row that `owner` may claim. -/
def SecretRow.claimable (row : SecretRow) (id : String) (customer : Option String) (now : Int) :
    Bool :=
  row.id = id && row.customerID = customer && row.deviceID = none && now < row.expiresAt

/-- A row that a dispatch to the device may open. -/
def SecretRow.opens (row : SecretRow) (id deviceID : String) (now : Int) : Bool :=
  row.id = id && row.deviceID = some deviceID && now < row.expiresAt

/-- Open the sealed value of a deleted row. -/
def openSealed (key : Key) (id : String) (row : SecretRow) : Except String String :=
  if row.sealed.length < aead.nonceSize then .error "open secret: sealed value too short"
  else
    match aead.openValue key (row.sealed.take aead.nonceSize) (row.sealed.drop aead.nonceSize)
        (additionalData id (row.customerID.getD "")) with
    | none =>
      .error "open secret: the value does not authenticate under the configured key"
    | some plain => .ok plain

/-- The answer of a statement, and what is left of it when it is lost or refused. -/
def deliver {α : Type} (c : SecretChoice) (w : SecretWorld) (what : String)
    (answer : Except String α) (table : SecretTable) : Except String α × SecretWorld :=
  match c.delivery with
  | .executed => (answer, ⟨table, w.now + c.elapsed⟩)
  | .refused => (.error what, ⟨w.table, w.now + c.elapsed⟩)
  | .lost => (.error what, ⟨table, w.now + c.elapsed⟩)

section

variable (key : Option Key) (id owner : String) (c : SecretChoice) (w : SecretWorld)

def putCall (owner value : String) (ttl : Int) (raw : String) (nonce : List Char) (c : SecretChoice)
    (w : SecretWorld) : Except String Handle × SecretWorld :=
  match key with
  | none => (.error errDisabled, w)
  | some key =>
    let id := "sh_" ++ raw
    -- `rand.Read` fills a slice of `NonceSize` bytes.
    if nonce.length ≠ aead.nonceSize then (.error "rand", w)
    else
      let sealed := nonce ++ aead.sealValue key nonce value (additionalData id owner)
      let expiresAt := w.now + c.elapsed + ttl
      match customerOf uuid owner with
      | none => deliver c w "store secret" (.error "store secret") w.table
      | some customer =>
        match w.table.insert id customer sealed expiresAt with
        | none => deliver c w "store secret" (.error "store secret") w.table
        | some table => deliver c w "store secret" (.ok ⟨id, expiresAt⟩) table

def checkCall : Except String Unit × SecretWorld :=
  match key, customerOf uuid owner with
  | none, _ => (.error errDisabled, w)
  | some _, none => deliver c w "check secret" (.error "check secret") w.table
  | some _, some customer =>
    deliver c w "check secret"
      (if w.table.rows.any (·.claimable id customer (w.now + c.elapsed)) then .ok ()
        else .error errInvalidHandle) w.table

def claimCall (id owner deviceID : String) (c : SecretChoice) (w : SecretWorld) :
    Except String Unit × SecretWorld :=
  match key, customerOf uuid owner with
  | none, _ => (.error errDisabled, w)
  | some _, none => deliver c w "claim secret" (.error "claim secret") w.table
  | some _, some customer =>
    let p := fun row : SecretRow => row.claimable id customer (w.now + c.elapsed)
    deliver c w "claim secret"
      (if w.table.rows.countP p = 1 then .ok () else .error errInvalidHandle)
      (w.table.claim p deviceID)

def openCall (id deviceID : String) (c : SecretChoice) (w : SecretWorld) :
    Except String String × SecretWorld :=
  match key with
  | none => (.error errDisabled, w)
  | some key =>
    let p := fun row : SecretRow => row.opens id deviceID (w.now + c.elapsed)
    deliver c w "open secret"
      (match w.table.rows.find? p with
        | none => .error errHandleGone
        | some row => openSealed aead key id row)
      (w.table.delete p)

def discardCall : Except String Bool × SecretWorld :=
  match key, customerOf uuid owner with
  | none, _ => (.ok false, w)
  | some _, none => deliver c w "discard secret" (.error "discard secret") w.table
  | some _, some customer =>
    let p := fun row : SecretRow => row.id = id && row.customerID = customer
    deliver c w "discard secret" (.ok (w.table.rows.countP p = 1)) (w.table.delete p)

def sweepCall : Except String Nat × SecretWorld :=
  let p := fun row : SecretRow => decide (row.expiresAt ≤ w.now + c.elapsed)
  deliver c w "sweep secrets" (.ok (w.table.rows.countP p)) (w.table.delete p)

end

/-- What a call does. -/
def SecretCall.exec : (call : SecretCall Key) → SecretChoice → SecretWorld →
    call.Res × SecretWorld
  | .put key owner value ttl raw nonce, c, w => putCall aead uuid key owner value ttl raw nonce c w
  | .check key id owner, c, w => checkCall uuid key id owner c w
  | .claim key id owner deviceID, c, w => claimCall uuid key id owner deviceID c w
  | .open key id deviceID, c, w => openCall aead key id deviceID c w
  | .discard key id owner, c, w => discardCall uuid key id owner c w
  | .sweep, c, w => sweepCall c w

/-- A caller: one call. -/
def SecretCall.prog (call : SecretCall Key) : Prog (@SecretCall.Res Key) Unit :=
  Prog.stmt call fun _ => Prog.done ()

abbrev SecretAction (Key : Type) := Pool.Action (SecretCall Key) SecretChoice
abbrev SecretEvent (Key : Type) := Pool.Event (@SecretCall.Res Key) SecretWorld

/-- The calls of any number of callers, in the order in which they take effect. -/
def secretTrace (as : List (SecretAction Key)) : List (SecretEvent Key) :=
  (Pool.run (SecretCall.exec aead uuid) SecretCall.prog as ⟨SecretWorld.init, []⟩).1

end Store

end Acs
