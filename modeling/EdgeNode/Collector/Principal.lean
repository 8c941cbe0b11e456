import EdgeNode.Collector.Database

/-!
# What the collector decides by

The receiver's own account of a sender (`IngestPrincipal`), the clock state an envelope is judged by
with its freshness limits, and the verdict of the registry on one item. None of it comes from the
sender.
-/

namespace EdgeNode

/-! ## Principals -/

inductive IngestActorKind where
  | officialAdapter
  | deviceToken
  deriving DecidableEq, Repr

/-- The subjects a principal may write for; a restricted scope is a set of devices. -/
inductive SubjectScope where
  | officialDiscovery
  | restricted (subjects : List SystemId)
  deriving DecidableEq, Repr

structure IngestPrincipal where
  principalId : String
  credentialId : Option String
  configuredSource : String
  scope : SubjectScope
  flowProfile : String
  authEpoch : Option String
  authGeneration : Option ℤ
  principalMaterialGeneration : Option ℤ
  actorKind : IngestActorKind
  deriving DecidableEq, Repr

namespace IngestPrincipal

def trustedOfficialAdapter (principalId configuredSource : String) : IngestPrincipal where
  principalId := principalId
  credentialId := none
  configuredSource := configuredSource
  scope := .officialDiscovery
  flowProfile := "trusted_in_process"
  authEpoch := none
  authGeneration := none
  principalMaterialGeneration := none
  actorKind := .officialAdapter

def soleSubject (p : IngestPrincipal) : Option SystemId :=
  match p.scope with
  | .restricted subjects =>
    match subjects.dedup with
    | [subject] => some subject
    | _ => none
  | .officialDiscovery => none

def subjectAllowed (p : IngestPrincipal) (subject : SystemId) : Bool :=
  match p.scope with
  | .officialDiscovery => true
  | .restricted subjects => subjects.contains subject

def canStageUnknown (p : IngestPrincipal) : Bool :=
  p.scope == .officialDiscovery && p.actorKind == .officialAdapter

end IngestPrincipal

structure IngestRequest where
  principal : IngestPrincipal
  envelope : Envelope
  deriving DecidableEq, Repr

inductive IntrusionKind where
  | sourceMismatch
  | subjectScopeViolation
  deriving DecidableEq, Repr

structure IntrusionSignal where
  principalId : String
  credentialId : Option String
  kind : IntrusionKind
  deriving DecidableEq, Repr

/-! ## Freshness -/

structure FreshnessSnapshot where
  receivedAtMs : ℤ
  trustedWallTimeMs : Option ℤ
  deriving DecidableEq, Repr

def maxFreshnessLimitMs : ℤ := 365 * 24 * 60 * 60 * 1000

structure FreshnessLimits where
  maxAgeMs : ℤ
  maxFutureSkewMs : ℤ
  valid : (0 ≤ maxAgeMs ∧ maxAgeMs ≤ maxFreshnessLimitMs)
    ∧ 0 ≤ maxFutureSkewMs ∧ maxFutureSkewMs ≤ maxFreshnessLimitMs

def FreshnessLimits.default : FreshnessLimits where
  maxAgeMs := 24 * 60 * 60 * 1000
  maxFutureSkewMs := 5 * 60 * 1000
  valid := by decide

def requiresAbsoluteTime (item : ReadingItem) : Bool :=
  item.deviceTimeMs.isSome && item.timeSource != .edgeNode

def restoreDeviceTime (receivedAt : ℤ) (deviceTimeMs : Option ℤ) (ageMs : Option ℕ)
    (declared : TimeSource) : Option ℤ × TimeSource :=
  match deviceTimeMs, ageMs with
  | some dt, _ => (some dt, declared)
  | none, some age =>
    match (I64.checked age).bind (I64.checkedSub receivedAt) with
    | some dt => (some dt, .edgeNodeAdjusted)
    | none => (none, declared)
  | none, none => (none, declared)

def itemPath (itemIndex : ℕ) (field : String) : Option String :=
  some ("/items/" ++ toString itemIndex ++ "/" ++ field)

/-- The rejection of an observation outside the freshness window. An item that needs absolute time
is only judged against a trusted clock. -/
def freshnessRejection (item : ReadingItem) (itemIndex : ℕ) (clock : FreshnessSnapshot)
    (limits : FreshnessLimits) : Option Rejection :=
  if item.deviceTimeMs.isNone && item.ageMs.any (fun age => limits.maxAgeMs < age) then
    some ⟨.staleTimestamp, "observation age exceeds the configured freshness window",
      itemPath itemIndex "age_ms", some ("age_ms <= " ++ toString limits.maxAgeMs)⟩
  else if requiresAbsoluteTime item then
    match clock.trustedWallTimeMs, item.deviceTimeMs with
    | some now, some timestamp =>
      if timestamp < I64.saturatingSub now limits.maxAgeMs then
        some ⟨.staleTimestamp, "device timestamp is older than the configured freshness window",
          itemPath itemIndex "device_time_ms",
          some ("device_time_ms >= trusted_now_ms - " ++ toString limits.maxAgeMs)⟩
      else if I64.saturatingAdd now limits.maxFutureSkewMs < timestamp then
        some ⟨.staleTimestamp, "device timestamp exceeds the configured future-skew limit",
          itemPath itemIndex "device_time_ms",
          some ("device_time_ms <= trusted_now_ms + " ++ toString limits.maxFutureSkewMs)⟩
      else none
    | _, _ => none
  else none

inductive RegistryVerdict where
  | accept (resolvedKey : String) (channelIndex : ℤ) (quarantine : Option QuarantineReason)
  | rejectItem (reasonCode : ReasonCode) (message : String)
  deriving DecidableEq, Repr

/-- Whether the series itself is in doubt, not only the observation. -/
def isSeriesLevel : QuarantineReason → Bool
  | .unknownKey | .undeclaredChannel => true
  | _ => false

/-- A registry policy reads and writes the registry's tables and the ledger's; its errors are
failures of the storage. -/
structure RegistryPolicy (ρ : Type) where
  evaluate : SystemId → ReadingItem → Tx (LedgerDb × ρ) String RegistryVerdict

def permissiveRegistry {ρ : Type} : RegistryPolicy ρ where
  evaluate _ item := pure
    (.accept item.measurementKey (item.channelIndex.elim channelNa fun c => (c : ℤ)) none)

end EdgeNode
