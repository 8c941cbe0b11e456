import EdgeNode.Ledger.Store

/-!
# Authority

The tables that say who may do what: the administrator's credential, the operators' tokens, and the
row that holds the generations and the floor of trusted time; the ingest principals of the devices
with their scopes, credentials and flow classes.
-/

namespace EdgeNode

/-! ## Operators -/

inductive Tier where
  | readOnly
  | routine
  | daily
  | construction
  deriving DecidableEq, Repr

namespace Tier

def rank : Tier → ℕ
  | readOnly => 0
  | routine => 1
  | daily => 2
  | construction => 3

instance : LE Tier := ⟨fun a b => a.rank ≤ b.rank⟩

instance : LT Tier := ⟨fun a b => a.rank < b.rank⟩

instance (a b : Tier) : Decidable (a ≤ b) := inferInstanceAs (Decidable (a.rank ≤ b.rank))

instance (a b : Tier) : Decidable (a < b) := inferInstanceAs (Decidable (a.rank < b.rank))

theorem not_lt {a b : Tier} : ¬ a < b ↔ b ≤ a := Nat.not_lt

theorem le_trans {a b c : Tier} : a ≤ b → b ≤ c → a ≤ c := Nat.le_trans

def asStr : Tier → String
  | readOnly => "read_only"
  | routine => "routine"
  | daily => "daily"
  | construction => "construction"

def escalate : Tier → Tier
  | readOnly => routine
  | routine => daily
  | daily => construction
  | construction => construction

end Tier

inductive TokenKind where
  | human
  | ai
  deriving DecidableEq, Repr

inductive ActorKind where
  | human
  | ai
  | localCli
  | system
  deriving DecidableEq, Repr

def ActorKind.asStr : ActorKind → String
  | human => "human"
  | ai => "ai"
  | localCli => "local_cli"
  | system => "system"

structure Actor where
  actorId : String
  actorKind : ActorKind
  tierCeiling : Tier
  deriving DecidableEq, Repr

/-- A row of `operator_tokens`, which has no row for an AI token above the routine tier. -/
structure TokenRow where
  name : String
  tokenHash : String
  kind : TokenKind
  tierCeiling : Tier
  isSession : Bool
  createdAt : ℤ
  expiresAt : Option ℤ
  revokedAt : Option ℤ := none
  lastUsedAt : Option ℤ := none
  authGeneration : ℤ
  aiCeiling : kind = .ai → tierCeiling ≤ .routine
  deriving DecidableEq

structure AdminCredential where
  passphraseHash : String
  setAt : ℤ
  updatedAt : ℤ
  deriving DecidableEq, Repr

inductive TrustSource where
  | kernelSync
  | manualLocalRoot
  deriving DecidableEq, Repr

def TrustSource.asStr : TrustSource → String
  | kernelSync => "kernel_sync"
  | manualLocalRoot => "manual_local_root"

/-! ## Devices -/

inductive CredentialState where
  | current
  | pending
  | revoked
  deriving DecidableEq, Repr

/-- `state IN ('current','pending')`. -/
def CredentialState.isLive : CredentialState → Bool
  | .revoked => false
  | _ => true

inductive FlowClass where
  | low
  | default
  | high
  deriving DecidableEq, Repr

structure PrincipalRow where
  deviceSystemId : SystemId
  flowClass : FlowClass
  createdAt : ℤ
  deriving DecidableEq, Repr

inductive CredentialReason where
  | deviceCommissioning
  | manualIssue
  | credentialReissue
  | credentialConfirmed
  | pendingAbandoned
  | operatorRevoked
  | hardwareReplaced
  | deviceRetired
  deriving DecidableEq, Repr

structure CredentialRow where
  principalId : String
  tokenHash : String
  authEpoch : String
  state : CredentialState
  issuedAt : ℤ
  lastUsedAt : Option ℤ := none
  provenAt : Option ℤ := none
  confirmedAt : Option ℤ := none
  revokedAt : Option ℤ := none
  issueReason : CredentialReason
  revokeReason : Option CredentialReason := none
  deriving DecidableEq, Repr

structure AuthState where
  authGeneration : ℤ
  authEpoch : String
  deviceCredentialGeneration : ℤ
  recoveryRequired : Bool := false
  ownershipEverEstablished : Bool := false
  clockFloorMs : ℤ := 0
  clockEvidenceSource : Option TrustSource := none
  clockEvidenceAtMs : Option ℤ := none
  manualEvidenceSeq : ℤ := 0
  deriving DecidableEq, Repr

structure AuthDb where
  state : AuthState
  adminCredential : Option AdminCredential := none
  tokens : AList fun _ : String => TokenRow
  principals : AList fun _ : String => PrincipalRow
  scopes : List (String × SystemId)
  credentials : AList fun _ : String => CredentialRow

/-- A fresh database: one authentication epoch and nobody registered. -/
def AuthDb.empty (authEpoch : String) : AuthDb where
  state := { authGeneration := 0, authEpoch := authEpoch, deviceCredentialGeneration := 0 }
  tokens := ∅
  principals := ∅
  scopes := []
  credentials := ∅

def LedgerDb.aliveDevice (ledger : LedgerDb) (systemId : SystemId) : Bool :=
  (ledger.devices.lookup systemId).any DeviceRow.alive

/-- The view `live_device_ingest_principals`, read at one principal. -/
def AuthDb.live (auth : AuthDb) (ledger : LedgerDb) (principalId : String) : Bool :=
  (auth.principals.lookup principalId).any (fun p => ledger.aliveDevice p.deviceSystemId)
    && auth.credentials.entries.any (fun c => c.2.principalId == principalId && c.2.state.isLive)
    && auth.scopes.any (fun s => s.1 == principalId && ledger.aliveDevice s.2)

end EdgeNode
