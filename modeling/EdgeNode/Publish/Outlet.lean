import EdgeNode.Publish.Retention
import EdgeNode.Lib.Machine

/-!
# The way out to the archive

The publication log, the registered target and the activation row, with the operations on them. Each
operation is one transaction, so one that fails leaves nothing behind. Not read by any of them and
left out: the rows of the audit log.
-/

namespace EdgeNode

namespace Outlet

structure DeliveryTarget extends TargetRow where
  endpointUrl : String
  credentialToken : String
  schemaVersion : ℤ
  deriving DecidableEq, Repr

structure ActivationRequest where
  schemaVersion : ℕ
  activationId : String
  edgeId : String
  edgeNodeId : String
  expectedLedgerEpoch : String
  grantRevision : ℕ
  issuedAt : ℤ
  deriving DecidableEq, Repr

structure ActivationResult where
  schemaVersion : ℕ
  activationId : String
  edgeId : String
  edgeNodeId : String
  ledgerEpoch : String
  status : String
  discardThroughReadingSeq : ℤ
  firstPublicationSeq : ℤ
  appliedAt : ℤ
  deriving DecidableEq, Repr

/-- The row of `edge_node_activation`; the columns that repeat the result are not read. -/
structure Activation where
  state : ActivationState
  discardThrough : Option ℤ
  cleanupThrough : ℤ
  request : Option ActivationRequest
  result : Option ActivationResult
  deriving DecidableEq, Repr

structure Db where
  edgeNodeId : String
  epoch : String
  readings : AutoTable ReadingRow
  log : AutoTable PublicationRow
  targets : List DeliveryTarget
  activation : Activation

def invalid {α : Type} (message : String) : Except PublishError α := .error (.invalid message)

/-! ## The log -/

/-- A row of the current epoch, where publication is admitted. What an annotation or a smoke record
says is not read here; an annotation that the index has already is no event. -/
def enqueue (db : Db) (kind : PublicationKind) (readingSeq : Option ℕ) (nowMs : ℤ) :
    Except PublishError Db :=
  if db.activation.state = .discoveryOnly then
    invalid "Edge Node activation has not admitted publication"
  else match db.log.insert ⟨db.epoch, kind, readingSeq, nowMs⟩ with
    | some log => .ok { db with log := log }
    | none => .error .sqlite

def enqueueMeasurement (db : Db) (readingSeq : ℕ) (nowMs : ℤ) : Except PublishError Db :=
  enqueue db .measurement (some readingSeq) nowMs

def enqueueAnnotation (db : Db) (nowMs : ℤ) : Except PublishError Db :=
  enqueue db PublicationKind.annotation none nowMs

def enqueueCommissioningSmoke (db : Db) (nowMs : ℤ) : Except PublishError Db :=
  enqueue db .commissioningSmoke none nowMs

/-- The collector's transaction: a reading is stored, and published where publication is admitted. -/
def storeReading (db : Db) (r : NewReading) : Except PublishError Db :=
  match db.readings.insert r.row with
  | none => .error .sqlite
  | some readings =>
    let db := { db with readings := readings }
    if r.quarantined || db.activation.state == .discoveryOnly then .ok db
    else enqueueMeasurement db readings.lastId r.receivedAtMs

/-! ## The target -/

def targetGet (db : Db) : Option DeliveryTarget := db.targets.head?

def mapTarget (db : Db) (targetId : String) (f : DeliveryTarget → DeliveryTarget) : Db :=
  { db with targets := db.targets.map fun t => if t.targetId = targetId then f t else t }

def targetAdvanceCursor (db : Db) (targetId epoch : String) (pubSeq : ℤ) : Db :=
  mapTarget db targetId fun t => { t with cursorEpoch := some epoch, cursorPubSeq := pubSeq }

def pending (db : Db) (epoch : String) (afterPubSeq : ℤ) : List (ℕ × PublicationRow) :=
  db.log.rows.filter fun r => r.2.epoch == epoch && decide (afterPubSeq < (r.1 : ℤ))

def selectBatch (db : Db) (epoch : String) (afterPubSeq : ℤ) (limit : ℕ) :
    List (ℕ × PublicationRow) :=
  (pending db epoch afterPubSeq).take limit

def anyUnackedForTarget (db : Db) (target : DeliveryTarget) : Bool :=
  !(pending db db.epoch (effectiveCursor db.epoch target.toTargetRow)).isEmpty

def archiveId : String := "archive"

/-- The first half of the command; the target takes part after its smoke test. -/
def runTargetAdd (db : Db) (owned : Bool) (endpoint token : String) (schemaVersion : ℕ) :
    Except String Db :=
  if !owned then .error "setupモード中は出口target登録不可（D13）。管理者パスフレーズを設定してから"
  else if !"https://".toList.isPrefixOf endpoint.toList then
    .error "target endpoint must use https://"
  else if schemaVersion ≠ 1 then .error "target schema_version must be 1"
  else if 0 < db.targets.length then .error "target already registered"
  else .ok { db with targets := [⟨⟨archiveId, false, none, 0⟩, endpoint, token, schemaVersion⟩] }

def targetSmokeOk (db : Db) : Db :=
  mapTarget db archiveId fun t => { t with archiveResponsible := true }

def targetSetToken (db : Db) (targetId token : String) : Db :=
  mapTarget db targetId fun t => { t with credentialToken := token }

def runTargetRemove (db : Db) (abandonCustody : Bool) : Except String Db :=
  match targetGet db with
  | none => .error "no target"
  | some target =>
    if !abandonCustody && anyUnackedForTarget db target then
      .error "unacked custody rows remain; use --abandon-custody to force"
    else .ok { db with targets := db.targets.filter fun t => t.targetId != target.targetId }

/-! ## A delivery cycle -/

def batchLimit : ℕ := 256
def byteCap : ℕ := 1024 * 1024

structure PreparedBatch where
  records : List Json
  cursorStart : ℤ
  cursorEnd : ℤ
  endpointUrl : String
  credentialToken : String
  targetId : String
  currentEpoch : String

structure AckResponse where
  publicationId : String
  ackedPubSeq : ℤ

/-- How many of the records fit under the cap; the first one always does. -/
def selectedRecordCount : List ℕ → ℕ → ℕ → ℕ
  | [], _, selected => selected
  | len :: lens, totalBytes, selected =>
    if 0 < selected ∧ byteCap < totalBytes + len then selected
    else selectedRecordCount lens (totalBytes + len) (selected + 1)

/-- How a row of the log becomes a record, read from the other tables, and how long its text is. -/
structure Format where
  materialize : ℕ × PublicationRow → Except String Json
  size : Json → ℕ

def prepareBatch (format : Format) (db : Db) : Except String (Option PreparedBatch) :=
  match targetGet db with
  | none => .ok none
  | some target =>
    if !target.archiveResponsible then .ok none
    else if !"https://".toList.isPrefixOf target.endpointUrl.toList then
      .error ("refusing to deliver to non-HTTPS endpoint: " ++ target.endpointUrl)
    else
      let cursor := effectiveCursor db.epoch target.toTargetRow
      let rows := selectBatch db db.epoch cursor batchLimit
      if rows.isEmpty then .ok none
      else do
        let records ← rows.mapM format.materialize
        if records.isEmpty then
          .error "materialized empty records for non-empty outbox batch"
        let count := selectedRecordCount (records.map format.size) 0 0
        match rows[count - 1]? with
        | none => .error "selected batch cursor missing"
        | some last =>
          .ok (some ⟨records.take count, cursor + 1, last.1, target.endpointUrl,
            target.credentialToken, target.targetId, db.epoch⟩)

def publicationId (b : PreparedBatch) : String :=
  b.targetId ++ ":" ++ b.currentEpoch ++ ":" ++ toString b.cursorStart ++ ":"
    ++ toString b.cursorEnd

def advanceCursorAfterAck (db : Db) (b : PreparedBatch) (ack : AckResponse) : Except String Db :=
  if ack.publicationId ≠ publicationId b then
    .error ("publish ack publication_id mismatch: expected " ++ publicationId b ++ ", got "
      ++ ack.publicationId)
  else if ack.ackedPubSeq ≠ b.cursorEnd then
    .error ("publish ack acked_pub_seq " ++ toString ack.ackedPubSeq
      ++ " does not match batch cursor_end " ++ toString b.cursorEnd)
  else match targetGet db with
    | none => .error "publish target disappeared before cursor advance"
    | some target =>
      if target.targetId ≠ b.targetId then
        .error ("publish target changed before cursor advance: expected " ++ b.targetId ++ ", got "
          ++ target.targetId)
      else if target.cursorEpoch = some b.currentEpoch ∧ b.cursorEnd < target.cursorPubSeq then
        .ok db
      else .ok (targetAdvanceCursor db b.targetId b.currentEpoch b.cursorEnd)

/-! ## Activation -/

/-- `char::is_control`. -/
def isControl (c : Char) : Bool := c.toNat < 0x20 || (0x7f ≤ c.toNat && c.toNat ≤ 0x9f)

def lowerHex (c : Char) : Bool := c.isDigit || ('a' ≤ c && c ≤ 'f')

def validatePrefixedHex (field value lead : String) : Except PublishError Unit :=
  if !lead.toList.isPrefixOf value.toList then
    invalid (field ++ " must start with " ++ lead)
  else
    -- counted in characters: where all are hexadecimal these are the bytes
    let random := value.toList.drop lead.length
    if random.length ≠ 32 ∨ !random.all lowerHex then
      invalid (field ++ " must contain 128-bit lowercase hexadecimal")
    else .ok ()

def validateIdentity (field value : String) : Except PublishError Unit :=
  if value.isEmpty ∨ 255 < value.utf8ByteSize ∨ ':' ∈ value.toList ∨ value.toList.any isControl then
    invalid (field ++ " is not a valid identity")
  else .ok ()

def validateTopicSegment (field value : String) : Except PublishError Unit := do
  validateIdentity field value
  if value.toList.any fun c => c ∈ ['/', '+', '#'] then
    invalid (field ++ " is not a safe MQTT topic segment")

def ActivationRequest.validate (q : ActivationRequest) : Except PublishError Unit := do
  if q.schemaVersion ≠ 1 then invalid "activation request schema_version must be 1"
  validatePrefixedHex "activation_id" q.activationId "act-"
  validatePrefixedHex "edge_id" q.edgeId "edge-"
  validateTopicSegment "edge_node_id" q.edgeNodeId
  validateIdentity "expected_ledger_epoch" q.expectedLedgerEpoch
  if q.grantRevision ≠ 1 then invalid "activation grant_revision must be 1"
  if q.issuedAt < 0 then invalid "activation issued_at must be non-negative"

def ActivationResult.validate (r : ActivationResult) : Except PublishError Unit := do
  if r.schemaVersion ≠ 1 then invalid "activation result schema_version must be 1"
  validatePrefixedHex "activation_id" r.activationId "act-"
  validatePrefixedHex "edge_id" r.edgeId "edge-"
  validateTopicSegment "edge_node_id" r.edgeNodeId
  validateIdentity "ledger_epoch" r.ledgerEpoch
  if r.status ≠ "applied" then invalid "activation result status must be applied"
  if r.discardThroughReadingSeq < 0 then invalid "discard boundary must be non-negative"
  if r.firstPublicationSeq ≠ 1 then invalid "first_publication_seq must be 1"
  if r.appliedAt < 0 then invalid "activation applied_at must be non-negative"

def unusedStream (db : Db) (targets : ℕ) : Bool :=
  db.targets.length == targets && db.log.rows.isEmpty && db.log.lastId == 0
    && db.targets.all fun t => t.cursorPubSeq == 0 && t.cursorEpoch.isNone

def installEdgeTarget (db : Db) (target : DeliveryTarget) : Except PublishError Db :=
  if target.cursorPubSeq ≠ 0 ∨ target.cursorEpoch.isSome then
    invalid "new IoTKit Edge target cursor must be unused"
  else if db.activation.state ≠ .standalone then
    invalid "IoTKit Edge target may only be installed on a standalone Edge Node"
  else if !unusedStream db 0 then
    invalid ("standalone outbox adoption is unsupported; Edge Node activation requires an unused "
      ++ "publication stream")
  else .ok { db with
    targets := db.targets ++ [target]
    activation := { db.activation with state := .discoveryOnly } }

/-- `COALESCE(MAX(seq), 0)`; the rows are in the order of their keys. -/
def maxReadingSeq (db : Db) : ℤ :=
  match db.readings.rows.getLast? with
  | none => 0
  | some r => r.1

def applyActivation (db : Db) (request : ActivationRequest) (nowMs : ℤ) :
    Except PublishError (ActivationResult × Db) := do
  request.validate
  if nowMs < 0 then invalid "activation applied_at must be non-negative"
  if request.edgeNodeId ≠ db.edgeNodeId then
    invalid "activation request edge_node_id does not match this Edge Node"
  if request.expectedLedgerEpoch ≠ db.epoch then
    invalid "activation request ledger epoch does not match this Edge Node"
  match db.activation.state with
  | .active =>
    if db.activation.request ≠ some request then
      invalid "Edge Node is already active under a conflicting activation"
    else match db.activation.result with
      | none => invalid "active Edge Node has no stored activation result"
      | some result => do
        result.validate
        return (result, db)
  | .standalone => invalid "Edge Node has no IoTKit Edge target and cannot be activated"
  | .discoveryOnly =>
    if !unusedStream db 1 then invalid "activation requires an unused publication stream"
    else
      let result : ActivationResult :=
        ⟨1, request.activationId, request.edgeId, db.edgeNodeId, db.epoch, "applied",
          maxReadingSeq db, 1, nowMs⟩
      return (result, { db with activation :=
        ⟨.active, some result.discardThroughReadingSeq, 0, some request, some result⟩ })

def within (progress upto : ℤ) (r : ℕ × ReadingRow) : Bool :=
  decide (progress < (r.1 : ℤ)) && decide ((r.1 : ℤ) ≤ upto)

def cleanupPreActivationBatch (db : Db) (limit : ℕ) : Except PublishError (ℕ × Db) :=
  if limit = 0 ∨ db.activation.state ≠ .active then .ok (0, db)
  else match db.activation.discardThrough with
    | none => .error .sqlite
    | some boundary =>
      let progress := db.activation.cleanupThrough
      match ((db.readings.rows.filter (within progress boundary)).take limit).getLast? with
      | none => .ok (0, { db with activation :=
          { db.activation with cleanupThrough := max progress boundary } })
      | some last => .ok (db.readings.rows.countP (within progress last.1),
          { db with
            readings := db.readings.deleteWhere (within progress last.1)
            activation := { db.activation with cleanupThrough := last.1 } })

/-! ## Runs -/

structure Posted where
  batch : PreparedBatch
  sent : List (ℕ × PublicationRow)

/-- The tables with the batch a delivery cycle has under way. `delivered` and `used` are history: the
rows the registered target acknowledged, and every epoch so far. -/
structure State where
  db : Db
  posted : Option Posted
  delivered : List (ℕ × PublicationRow)
  used : List String

inductive Event where
  | store (r : NewReading)
  | annotate (nowMs : ℤ)
  | smoke (nowMs : ℤ)
  | renew (newEpoch : String)
  | targetAdd (owned : Bool) (endpoint token : String) (schemaVersion : ℕ)
  | targetSmokeOk
  | setToken (targetId token : String)
  | targetRemove (abandonCustody : Bool)
  | install (target : DeliveryTarget)
  | activate (request : ActivationRequest) (nowMs : ℤ)
  | cleanup (limit : ℕ)
  /-- Retention: acknowledged rows go, and the rows of whatever readings are purged. -/
  | purge (seqs : List ℕ)
  /-- The rows of readings set aside after the fact. -/
  | quarantine (seqs : List ℕ)
  | prepare (format : Format)
  /-- The answer to the batch posted, none where there is none that can be read in time. -/
  | answer (ack : Option AckResponse)
  /-- The process starts again; a batch under way is forgotten. -/
  | restart

def purge (db : Db) (seqs : List ℕ) : Db :=
  let cursor := custodyCursor db.epoch ((targetGet db).map DeliveryTarget.toTargetRow)
  { db with
    readings := db.readings.deleteWhere fun r => r.1 ∈ seqs
    log := db.log.deleteWhere fun r =>
      (cursor.any fun upto => Retention.acked db.epoch upto r) || Retention.refersTo seqs r }

/-- The tables after an operation, as they were where it fails. -/
def kept {ε : Type} (db : Db) : Except ε Db → Db
  | .ok db' => db'
  | .error _ => db

def commit (db : Db) : Event → Db
  | .store r => kept db (storeReading db r)
  | .annotate now => kept db <| enqueueAnnotation db now
  | .smoke now => kept db (enqueueCommissioningSmoke db now)
  | .renew epoch => { db with epoch := epoch }
  | .targetAdd owned endpoint token version => kept db (runTargetAdd db owned endpoint token version)
  | .targetSmokeOk => targetSmokeOk db
  | .setToken id token => targetSetToken db id token
  | .targetRemove abandon => kept db (runTargetRemove db abandon)
  | .install target => kept db (installEdgeTarget db target)
  | .activate request now => kept db ((applyActivation db request now).map Prod.snd)
  | .cleanup limit => kept db ((cleanupPreActivationBatch db limit).map Prod.snd)
  | .purge seqs => purge db seqs
  | .quarantine seqs => { db with log := db.log.deleteWhere (Retention.refersTo seqs) }
  | .prepare _ | .answer _ | .restart => db

def sentRows (db : Db) (b : PreparedBatch) : List (ℕ × PublicationRow) :=
  (selectBatch db b.currentEpoch (b.cursorStart - 1) batchLimit).take b.records.length

/-- The state after a transaction; a newly registered target has acknowledged nothing. -/
def committed (s : State) (db : Db) : State :=
  { s with
    db := db
    used := db.epoch :: s.used
    delivered := if s.db.targets.isEmpty && !db.targets.isEmpty then [] else s.delivered }

/-- One event. A delivery cycle ends before the next begins. -/
def step (s : State) : Event → Option State
  | .prepare format =>
    if s.posted.isSome then none
    else match prepareBatch format s.db with
      | .ok (some b) => some { s with posted := some ⟨b, sentRows s.db b⟩ }
      | _ => some s
  | .answer ack =>
    s.posted.map fun p =>
      match ack.map (advanceCursorAfterAck s.db p.batch) with
      | some (.ok db) => { s with db := db, posted := none, delivered := p.sent ++ s.delivered }
      | _ => { s with posted := none }
  | .restart => some { s with posted := none }
  | e => some (committed s (commit s.db e))

def initial (edgeNodeId epoch : String) : State where
  db := ⟨edgeNodeId, epoch, AutoTable.empty, AutoTable.empty, [],
    ⟨.standalone, none, 0, none, none⟩⟩
  posted := none
  delivered := []
  used := [epoch]

end Outlet

end EdgeNode
