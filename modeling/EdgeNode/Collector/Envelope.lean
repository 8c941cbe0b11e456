import EdgeNode.Collector.Item

/-!
# One envelope, in one transaction

The claim, all items and the staging of unknown subjects are one transaction, and its commit is the
point of acknowledgement. A violation of the contract answers without writing; a failure of the
storage answers nothing, so that the sender keeps the envelope.
-/

namespace EdgeNode

inductive ProcessError where
  | storage (cause : StorageCause)
  | clockUntrusted
  | authenticationStale

inductive SubmitError where
  | noAck
  | clockUntrusted
  | authenticationStale
  | closed
  deriving DecidableEq, Repr

namespace Collector

variable {ρ : Type}

def maxItemsPerEnvelope : ℕ := 256

/-- Whether a device's proof stands under the authority in force. -/
def proofIsCurrent (principalId credentialId authEpoch : String)
    (authGeneration materialGeneration : ℤ) (db : NodeDb ρ) : Bool :=
  (db.auth.credentials.lookup credentialId).any (fun c =>
    c.principalId == principalId && c.authEpoch == authEpoch && c.state.isLive
      && db.auth.live db.ledger c.principalId)
    && db.auth.state.authEpoch == authEpoch
    && db.auth.state.authGeneration == authGeneration
    && db.auth.state.deviceCredentialGeneration == materialGeneration

/-- A principal of the node's own adapters needs no proof, a device principal without one is
refused. -/
def authenticationIsCurrentAtSerialization (principal : IngestPrincipal) :
    Tx (NodeDb ρ) StorageCause Bool :=
  if principal.actorKind ≠ .deviceToken then pure true
  else
    match principal.credentialId, principal.authEpoch, principal.authGeneration,
        principal.principalMaterialGeneration with
    | some credentialId, some authEpoch, some authGeneration, some materialGeneration =>
      Tx.query .sqlite (proofIsCurrent principal.principalId credentialId authEpoch authGeneration
        materialGeneration)
    | _, _, _, _ => pure false

variable (c : Components ρ)

/-- Drops the cache when the ledger has another generation than the one it was filled under. -/
def syncCache (generation : ℤ) (w : Work ρ) : Work ρ :=
  if generation = w.cache.generation then w else { w with cache := { generation := generation } }

/-- Stages the sightings the items left, and notes what had to make room for them. -/
def stagePending (principalId : String) (receivedAt : ℤ) (pending : List StagedSighting) :
    Tx (Work ρ) StorageCause Unit :=
  if pending.isEmpty then pure ()
  else do
    let bounded ← onStaging .timeseries
      (Staging.stageSightingsAt principalId receivedAt pending
        StagingLimits.default.toStagingBounds)
    Tx.forEach (fun s : StagedSighting =>
      onStaging .ledger (Ledger.recordSighting c.host s.hardwareId principalId)) pending
    if 0 < bounded.expiredSubjects ∨ 0 < bounded.evictedSubjects then
      onLedger (Ledger.recordEvent c.host "staging_bounds" none <| String.ofList <|
        (Json.object [("expired_subjects", .int bounded.expiredSubjects),
          ("evicted_subjects", .int bounded.evictedSubjects)]).compact c.host.showFloat)

def processItems (principal : IngestPrincipal) (clock : FreshnessSnapshot)
    (items : List ReadingItem) : Tx (Work ρ) StorageCause (List ItemStatus) := do
  let epoch ← onLedger (Ledger.ledgerEpoch c.host)
  let context : ItemContext := ⟨principal, clock.receivedAtMs, clock, epoch⟩
  let outcomes ← Tx.traverse (fun i : ReadingItem × ℕ => processItem c context i.1 i.2)
    items.zipIdx
  stagePending c principal.principalId clock.receivedAtMs (outcomes.filterMap Prod.snd)
  pure (outcomes.map Prod.fst)

def envelopeRejection (request : IngestRequest) : Option Rejection :=
  if request.envelope.source ≠ request.principal.configuredSource then
    some ⟨.subjectScopeViolation, "configured source does not match authenticated principal",
      some "/source", some "configured authenticated source identity"⟩
  else if maxItemsPerEnvelope < request.envelope.items.length then
    some ⟨.batchTooLarge,
      "items " ++ toString request.envelope.items.length ++ " > " ++ toString maxItemsPerEnvelope,
      some "/items", some ("at most " ++ toString maxItemsPerEnvelope ++ " items")⟩
  else none

/-- A source that is not the principal's own is reported as an intrusion. -/
def noteRejection (request : IngestRequest) : Tx (Work ρ) StorageCause Unit :=
  if request.envelope.source ≠ request.principal.configuredSource then
    emitIntrusion c request.principal .sourceMismatch
  else pure ()

/-- A submission claims its envelope, a validation claims nothing. -/
def claimEnvelope (request : IngestRequest) (receivedAt : ℤ) (commit : Bool) :
    Tx (Work ρ) StorageCause Bool :=
  if commit then
    onDedup (Dedup.tryClaimEnvelopeBoundedAt request.principal.principalId
      request.envelope.envelopeId receivedAt DedupLimits.default.toDedupBounds)
  else pure true

/-- The end of an envelope whose items are processed: a submission is committed, a validation rolled
back, and with it the rows behind the identifiers cached so far. -/
def concludeEnvelope (commit : Bool) : Tx (Work ρ) ProcessError Tx.Ending :=
  if commit then pure .commit
  else do
    Tx.modify fun w => { w with cache := { w.cache with devices := ∅, series := ∅ } }
    pure .rollback

/-- An envelope that is not rejected as a whole, under one clock state. -/
def admittedEnvelope (clock : FreshnessSnapshot) (request : IngestRequest) (commit : Bool) :
    Tx (Work ρ) ProcessError (Tx.Ending × AckStatus) := do
  if clock.trustedWallTimeMs.isNone && request.envelope.items.any requiresAbsoluteTime then
    Tx.fail .clockUntrusted
  else
    let generation ← (onLedger Ledger.currentGeneration).mapError .storage
    Tx.modify (syncCache generation)
    if ← (claimEnvelope request clock.receivedAtMs commit).mapError .storage then
      let items ← (processItems c request.principal clock request.envelope.items).mapError .storage
      let ending ← concludeEnvelope commit
      pure (ending, .accepted items)
    else pure (.drop, .duplicate)

/-- The body of the transaction, with the way it ends. `clock` is the state the receiver's clock
gives for this envelope; `commit` tells a submission from a validation. -/
def envelopeBody (clock : Except String FreshnessSnapshot) (request : IngestRequest)
    (commit : Bool) : Tx (Work ρ) ProcessError (Tx.Ending × AckStatus) := do
  if ← (onNode (authenticationIsCurrentAtSerialization request.principal)).mapError .storage then
    match envelopeRejection request with
    | some rejection =>
      (noteRejection c request).mapError .storage
      pure (.drop, .rejected rejection)
    | none =>
      let clock ← Tx.ofExcept (clock.mapError fun e => .storage (.clock e))
      admittedEnvelope c clock request commit
  else Tx.fail .authenticationStale

def processEnvelopeMode (clock : Except String FreshnessSnapshot) (request : IngestRequest)
    (commit : Bool) : Tx (Work ρ) ProcessError EnvelopeAck := do
  let status ← Tx.transaction (.storage .sqlite) (fun before after => { after with db := before.db })
    (envelopeBody c clock request commit)
  pure ⟨request.envelope.envelopeId, status⟩

/-! ## The collector's task -/

/-- The state between requests; `draws` counts the values taken from outside so far. -/
structure State (ρ : Type) extends Work ρ where
  draws : ℕ := 0

/-- What a request meets from outside: which of its statements fail, and its clock state. -/
structure Circumstances where
  faults : List Bool := []
  clock : Except String FreshnessSnapshot

/-- One request. A failure of the storage drops the answer, which the sender sees as no
acknowledgement, and the cache, which may name rows that were rolled back. -/
def accept (s : State ρ) (o : Circumstances) (request : IngestRequest) (commit : Bool) :
    Except SubmitError EnvelopeAck × State ρ :=
  match processEnvelopeMode c o.clock request commit
      { db := s.toWork, faults := o.faults, draws := s.draws } with
  | (.ok ack, conn) => (.ok ack, ⟨conn.db, conn.draws⟩)
  | (.error .clockUntrusted, conn) => (.error .clockUntrusted, ⟨conn.db, conn.draws⟩)
  | (.error .authenticationStale, conn) => (.error .authenticationStale, ⟨conn.db, conn.draws⟩)
  | (.error (.storage _), conn) => (.error .noAck, ⟨{ conn.db with cache := {} }, conn.draws⟩)

def submit (s : State ρ) (o : Circumstances) (request : IngestRequest) :
    Except SubmitError EnvelopeAck × State ρ :=
  accept c s o request true

def itemIssues (items : List ItemStatus) : List ValidationIssue :=
  items.zipIdx.filterMap fun i =>
    match i.1 with
    | .stored _ _ => none
    | .itemRejected rejection => some ⟨some i.2, rejection⟩

def validationReportFromAck (ack : EnvelopeAck) : ValidationReport :=
  let issues := match ack.status with
    | .accepted items => itemIssues items
    | .rejected rejection => [⟨none, rejection⟩]
    | .duplicate | .deferred => []
  ⟨ack.envelopeId, issues.isEmpty, issues⟩

def validate (s : State ρ) (o : Circumstances) (request : IngestRequest) :
    Except SubmitError ValidationReport × State ρ :=
  let r := accept c s o request false
  (r.1.map validationReportFromAck, r.2)

end Collector

end EdgeNode
