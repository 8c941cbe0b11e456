import EdgeNode.Ops.Auth

/-!
# The operations of the control plane

`dispatch` is the only way to run an operation. It checks the actor in the same transaction that runs
the operation, runs the operation in a savepoint, and writes one audit event whatever the outcome.

A `Journal` holds what the transaction works on and, as a history variable, every operation that was
run with the contents it was run in.
-/

namespace EdgeNode

inductive OpError where
  | notFound
  | forbidden (reason : String)
  | stepUpRequired
  | preconditionFailed (reason : String)
  | validation (message : String)
  | internal (message : String)
  /-- An internal error whose message is the database's. -/
  | storage
  deriving DecidableEq, Repr

def OpError.code : OpError → String
  | notFound => "not_found"
  | forbidden _ => "forbidden"
  | stepUpRequired => "step_up_required"
  | preconditionFailed _ => "precondition_failed"
  | validation _ => "validation"
  | internal _ | storage => "internal"

def capacityMathOverflow : String := "capacity_math_overflow"

namespace OpError

def ofLedger : LedgerError → OpError
  | .notFound _ => .notFound
  | .invalidId text => .validation ("invalid system_id text: " ++ text)
  | .hardwareIdInUse hardwareId =>
    .preconditionFailed ("hardware_id already in use by a live entry: " ++ hardwareId)
  | .invalidReplace message => .preconditionFailed ("invalid replace: " ++ message)
  | .sqlite => .storage

def ofOps : OpsError → OpError
  | .notFound => .notFound
  | .conflict => .preconditionFailed "conflict"
  | .forbidden => .forbidden "forbidden"
  | .validation code =>
    if code = capacityMathOverflow then .validation code else .validation ("validation: " ++ code)
  | .clockUntrusted => .preconditionFailed "trusted wall clock is required"
  | .ledger e => ofLedger e
  | .raised message =>
    if message = capacityMathOverflow then .validation capacityMathOverflow else .storage
  | .sqlite => .storage
  | .credentialHash => .internal "credential hashing failed"
  | .random => .internal "random generation failed"

end OpError

structure DeviceCredentialDispatchResult where
  metadata : Json
  presentation : String

inductive DispatchResult where
  | pub (value : Json)
  | deviceCredential (result : DeviceCredentialDispatchResult)

structure DispatchRequest where
  op : String
  params : Json
  dryRun : Bool
  actor : Actor
  source : Option String
  stepUpVerified : Bool
  /-- Whether the request carries the clock of the node. -/
  clockTrust : Bool

structure OpContext where
  params : Json
  actorId : String
  source : Option String
  clockTrust : Bool
  actorKind : ActorKind
  dryRun : Bool
  secretDir : Option String

namespace Ops

variable {ρ α ε : Type}

/-- An operation of the catalogue. Its preconditions only read. -/
structure OpDescriptor (ρ : Type) where
  name : String
  tier : Tier
  bulkEscalates : Bool
  changesState : Bool
  paramsSchema : Json
  targets : Json → List String
  preconditions : OpContext → Tx (Work ρ) OpError Unit
  dryRun : OpContext → Tx (Work ρ) OpError Json
  execute : OpContext → Tx (Work ρ) OpError Json
  secretExecute : Option (OpContext → Tx (Work ρ) OpError DeviceCredentialDispatchResult)
  preconditions_read : ∀ context w n,
    Tx.wp (preconditions context) (fun _ w' _ => w' = w) (fun _ w' _ => w' = w) w n

/-- An operation that was run, by whom, and what it was run on. -/
structure Execution (ρ : Type) where
  op : String
  actor : Actor
  effectiveTier : Tier
  stepUpVerified : Bool
  db : NodeDb ρ
  trust : ClockTrust

structure Journal (ρ : Type) extends Work ρ where
  executions : List (Execution ρ) := []

def Journal.undo (before after : Journal ρ) : Journal ρ := { after with db := before.db }

def onWork (m : Tx (Work ρ) ε α) : Tx (Journal ρ) ε α :=
  m.on Journal.toWork fun j w => { j with toWork := w }

/-! ## Parameters and the audit event -/

def validateParams (schema params : Json) : Except OpError Unit :=
  match params with
  | .obj fields =>
    match (schema.get? "required").bind Json.asArray? with
    | none => .error (.internal "operation schema must declare required parameters")
    | some required =>
      let optional := ((schema.get? "optional").bind Json.asArray?).getD []
      match (required ++ optional).mapM Json.asStr? with
      | none => .error (.internal "schema parameter entries must be strings")
      | some declared =>
        if fields.any fun f => !declared.contains f.1 then
          .error (.validation "undeclared operation parameter")
        else
          match (declared.take required.length).find? fun key => (params.get? key).isNone with
          | some key => .error (.validation ("missing required param: " ++ key))
          | none => .ok ()
  | _ => .error (.validation "params must be an object")

def hasMarker (text marker : String) : Bool := decide (marker.toList <:+: text.toList)

def sensitiveMarkers : List String :=
  ["plaintext", "token", "credential", "passphrase", "private", "secret", "pem", "staging_subject"]

def sensitiveKey (key : String) : Bool :=
  let normalized := String.ofList (key.toList.map Char.toLower)
  sensitiveMarkers.any (hasMarker normalized)
    || ("key".toList.isSuffixOf normalized.toList
      && !(normalized == "key" || normalized == "measurement_key"))

def secretText (text : String) : Bool :=
  ["ikd_", "iko_", "-----BEGIN ", "PRIVATE KEY-----"].any (hasMarker text)

mutual

def redactAuditValue : Json → Json
  | .obj fields => .obj (redactFields fields)
  | .arr items => .arr (redactItems items)
  | .str text => .str (if secretText text then "[REDACTED]" else text)
  | value => value

def redactItems : List Json → List Json
  | [] => []
  | item :: items => redactAuditValue item :: redactItems items

def redactFields : List (String × Json) → List (String × Json)
  | [] => []
  | (key, value) :: fields =>
    (key, if sensitiveKey key then .str "[REDACTED]" else redactAuditValue value)
      :: redactFields fields

end

def auditResult : Except OpError DispatchResult → String
  | .ok _ => "ok"
  | .error e => "error:" ++ e.code

/-! ## Authorisation -/

/-- The declared tier, one step up for more than one target where the operation says so. -/
def OpDescriptor.effectiveTier (descriptor : OpDescriptor ρ) (params : Json) : Tier :=
  if 1 < (descriptor.targets params).length && descriptor.bulkEscalates then
    descriptor.tier.escalate
  else descriptor.tier

def positionalInventoryReconcileOp : String := "device.positional_inventory.reconcile"

/-- How the token of an actor stands, with the trusted time it was held against. -/
inductive TokenStanding where
  | gone
  | expired (now : ℤ)
  | stands (now : Option ℤ)
  deriving DecidableEq, Repr

def unrevokedToken (db : NodeDb ρ) (tokenId : String) : Option TokenRow :=
  (db.auth.tokens.lookup tokenId).filter fun row =>
    row.revokedAt.isNone && row.authGeneration == db.auth.state.authGeneration

def clockTrustOpError : ClockTrustError → OpError
  | .untrusted => .forbidden "clock_untrusted"
  | .ops _ => .storage

variable (clock : Clock)

def tokenStanding (clockTrust : Bool) (tokenId : String) : Tx (Work ρ) OpError TokenStanding := do
  let expiry ← onNode (Tx.query .storage fun db =>
    (unrevokedToken db tokenId).bind TokenRow.expiresAt)
  let found ← onNode (Tx.query .storage fun db => (unrevokedToken db tokenId).isSome)
  if !found then pure .gone
  else
    match expiry with
    | none => pure (.stands none)
    | some expiresAt =>
      if !clockTrust then Tx.fail (.forbidden "clock_untrusted")
      else
        let now ← (trustedNowAndAdvance clock).mapError clockTrustOpError
        pure (if expiresAt ≤ now then .expired now else .stands (some now))

def requireToken (clockTrust : Bool) (tokenId : String) : Tx (Work ρ) OpError Unit := do
  match ← tokenStanding clock clockTrust tokenId with
  | .stands _ => pure ()
  | _ => Tx.fail (.forbidden "token_revoked")

/-- A token actor is only as good as its token is now. -/
def requireActor (request : DispatchRequest) : Tx (Work ρ) OpError Unit :=
  if request.actor.actorKind = .human ∨ request.actor.actorKind = .ai then
    requireToken clock request.clockTrust request.actor.actorId
  else pure ()

def authorise (descriptor : OpDescriptor ρ) (request : DispatchRequest) :
    Tx (Work ρ) OpError Unit := do
  let effectiveTier := descriptor.effectiveTier request.params
  if request.actor.actorKind = .system ∧ descriptor.name ≠ positionalInventoryReconcileOp then
    Tx.fail (.forbidden "system_actor_scope")
  else
    requireActor clock request
    if request.actor.tierCeiling < effectiveTier then Tx.fail (.forbidden "tier")
    else if effectiveTier = .construction ∧ !request.stepUpVerified then Tx.fail .stepUpRequired
    else if descriptor.secretExecute.isSome ∧ !request.dryRun
        ∧ request.actor.actorKind ≠ .localCli then
      Tx.fail (.forbidden "authorized_presentation_required")
    else Tx.ofExcept (validateParams descriptor.paramsSchema request.params)

/-! ## The operation in its savepoint -/

/-- Which of the three statements of the savepoint fail. -/
structure SavepointFaults where
  savepoint : Bool := false
  rollbackTo : Bool := false
  release : Bool := false
  deriving DecidableEq, Repr

def contextOf (request : DispatchRequest) (secretDir : Option String) : OpContext :=
  ⟨request.params, request.actor.actorId, request.source, request.clockTrust,
    request.actor.actorKind, request.dryRun, secretDir⟩

def noteExecution (descriptor : OpDescriptor ρ) (request : DispatchRequest) :
    Tx (Journal ρ) OpError Unit :=
  Tx.modify fun j => { j with
    executions := j.executions ++ [⟨descriptor.name, request.actor,
      descriptor.effectiveTier request.params, request.stepUpVerified, j.db, j.trust⟩] }

def runOperation (descriptor : OpDescriptor ρ) (context : OpContext) :
    Tx (Work ρ) OpError DispatchResult :=
  match descriptor.secretExecute with
  | some execute => do
    let result ← execute context
    pure (.deviceCredential result)
  | none => do
    let value ← descriptor.execute context
    pure (.pub value)

def perform (descriptor : OpDescriptor ρ) (request : DispatchRequest) (context : OpContext) :
    Tx (Journal ρ) OpError DispatchResult := do
  onWork (descriptor.preconditions context)
  if request.dryRun then
    let value ← onWork (descriptor.dryRun context)
    pure (.pub value)
  else
    noteExecution descriptor request
    let value ← onWork (runOperation descriptor context)
    if descriptor.changesState then
      let _ ← onWork (onNode ((onLedger Ledger.bumpGeneration).mapError fun _ => OpError.storage))
      pure value
    else pure value

/-- Runs `m` between `SAVEPOINT` and `RELEASE`; an error and a dry run are rolled back to it. When
`ROLLBACK TO` fails, what was written stays. -/
def inSavepoint (faults : SavepointFaults) (dryRun : Bool)
    (m : Tx (Journal ρ) OpError DispatchResult) : Tx (Journal ρ) OpError DispatchResult := do
  if faults.savepoint then Tx.fail .storage
  else
    let before ← Tx.contents
    let result ← Tx.attempt m
    if dryRun || !result.isOk then
      if faults.rollbackTo then Tx.fail .storage
      else
        Tx.modify (Journal.undo before)
        if faults.release then Tx.fail .storage else Tx.ofExcept result
    else if faults.release then Tx.fail .storage
    else Tx.ofExcept result

/-! ## Dispatch -/

def auditDetail (descriptor : OpDescriptor ρ) (request : DispatchRequest)
    (result : Except OpError DispatchResult) : Json :=
  .object [("op", .str request.op), ("actor", .str request.actor.actorId),
    ("actor_kind", .str request.actor.actorKind.asStr), ("tier", .str descriptor.tier.asStr),
    ("effective_tier", .str (descriptor.effectiveTier request.params).asStr),
    ("dry_run", .bool request.dryRun), ("params", redactAuditValue request.params),
    ("result", .str (auditResult result)),
    ("targets", .arr ((descriptor.targets request.params).map .str)),
    ("source", jsonText request.source)]

def recordAudit (host : Host) (descriptor : OpDescriptor ρ) (request : DispatchRequest)
    (result : Except OpError DispatchResult) : Tx (Journal ρ) OpError Unit :=
  onWork (onNode ((recordEvent host "r14_op" none (auditDetail descriptor request result)).mapError
    fun _ => OpError.storage))

def ingressTlsRotateOp : String := "ingress.tls.rotate"

/-- The reconciliation of TLS key files with the database, which only one operation needs. -/
def reconcileTlsCustody (custody : Tx (NodeDb ρ) OpError Unit) (request : DispatchRequest)
    (secretDir : Option String) : Tx (Journal ρ) OpError Unit :=
  if request.op = ingressTlsRotateOp ∧ !request.dryRun ∧ secretDir.isSome then
    onWork (onNode (custody.mapError fun _ => OpError.internal "tls_custody_io"))
  else pure ()

/-- The decision of the transaction: the checks, then the operation in its savepoint. -/
def decideAndPerform (faults : SavepointFaults) (descriptor : OpDescriptor ρ)
    (request : DispatchRequest) (secretDir : Option String) :
    Tx (Journal ρ) OpError DispatchResult := do
  onWork (authorise clock descriptor request)
  inSavepoint faults request.dryRun
    (perform descriptor request (contextOf request secretDir))

/-- One immediate transaction: what was decided and the audit event are kept together or not at
all. -/
def dispatchFound (host : Host) (faults : SavepointFaults) (custody : Tx (NodeDb ρ) OpError Unit)
    (descriptor : OpDescriptor ρ) (request : DispatchRequest) (secretDir : Option String) :
    Tx (Journal ρ) OpError DispatchResult := do
  reconcileTlsCustody custody request secretDir
  let before ← Tx.contents
  Tx.query .storage fun _ => ()
  if descriptor.tier = .readOnly then Tx.fail (.internal "invalid op tier: read_only")
  else
    let result ← Tx.attempt (decideAndPerform clock faults descriptor request secretDir)
    match ← Tx.attempt (recordAudit host descriptor request result) with
    | .error e =>
      Tx.modify (Journal.undo before)
      reconcileTlsCustody custody request secretDir
      Tx.fail e
    | .ok () =>
      match ← Tx.attempt (Tx.query OpError.storage fun _ => ()) with
      | .error e =>
        Tx.modify (Journal.undo before)
        reconcileTlsCustody custody request secretDir
        Tx.fail e
      | .ok () =>
        reconcileTlsCustody custody request secretDir
        Tx.ofExcept result

def dispatchWithSecretDir (host : Host) (faults : SavepointFaults)
    (custody : Tx (NodeDb ρ) OpError Unit) (catalog : List (OpDescriptor ρ))
    (request : DispatchRequest) (secretDir : Option String) :
    Tx (Journal ρ) OpError DispatchResult :=
  match catalog.find? fun op => op.name == request.op with
  | none => Tx.fail .notFound
  | some descriptor => dispatchFound clock host faults custody descriptor request secretDir

end Ops

end EdgeNode
