/-
Alert policies (`internal/alerting/policy.go`): which policy applies to a device, and the
priority it gives a fault.

The keys of a policy's priorities are gone through in the order of the list.
-/
import Mathlib.Data.List.Infix
import Mathlib.Tactic.Basic

namespace Acs

/-- `Priority` -/
inductive AlertPriority where
  | p1 | p2 | p3 | p4
  deriving DecidableEq

/-- Priorities by fault code or pattern. -/
abbrev FaultPriorities := List (String × AlertPriority)

/-- `Scope` -/
inductive AlertScope where
  | fleet | tenant | group | device
  deriving DecidableEq

/-- A row of `alert_policies`, as far as it is read here; NULL columns are empty. -/
structure AlertPolicy where
  scope : AlertScope
  tenantID : String := ""
  groupID : String := ""
  deviceID : String := ""
  customerTier : String := ""
  enabled : Bool := true
  faultPriorities : FaultPriorities := []
  deriving DecidableEq

/-- The device an alert is about. -/
structure AlertTarget where
  tenantID : String
  groupIDs : List String
  (deviceID customerTier : String)
  deriving DecidableEq

namespace AlertPolicy

variable (p : AlertPolicy)

/-- A key that ends in `*`, and what stands before it. -/
def wildcard (key : String) : Option (List Char) :=
  match key.toList.reverse with
  | '*' :: c :: rest => some (c :: rest).reverse
  | _ => none

/-- The priority of a fault: that of its own key, else of the first pattern. -/
def classify (faultCode : String) (offline : Bool) : AlertPriority :=
  if offline then (p.faultPriorities.lookup "offline").getD .p2
  else
    match p.faultPriorities.lookup faultCode with
    | some v => v
    | none =>
      ((p.faultPriorities.find? fun e =>
        (wildcard e.1).any (·.isPrefixOf faultCode.toList)).map (·.2)).getD .p3

/-- `matches`: the policy is for the device. -/
def applies (t : AlertTarget) : Bool :=
  match p.scope with
  | .device => p.deviceID ≠ "" ∧ p.deviceID = t.deviceID
  | .group => t.groupIDs.any fun id => p.groupID ≠ "" ∧ p.groupID = id
  | .tenant => p.tenantID ≠ "" ∧ p.tenantID = t.tenantID ∧
      (p.customerTier = "" ∨ p.customerTier = t.customerTier)
  | .fleet => p.tenantID = "" ∧ p.groupID = "" ∧ p.deviceID = ""

end AlertPolicy

/-- How specific a scope is. -/
def AlertScope.rank : AlertScope → Nat
  | .device => 4
  | .group => 3
  | .tenant => 2
  | .fleet => 1

/-- `Resolve`: the most specific policy that is enabled and matches, the first of its scope. -/
def resolvePolicy (policies : List AlertPolicy) (t : AlertTarget) : Option AlertPolicy :=
  policies.foldl (fun best p =>
    if !p.enabled || !p.applies t then best
    else if best.all (·.scope.rank < p.scope.rank) then some p
    else best) none

end Acs
