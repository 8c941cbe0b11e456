import EdgeNode.Collector.Principal

/-!
# One item of an envelope

The steps an item goes through inside the transaction of its envelope. Beside the database they work
on what the collector keeps in memory, which no rollback undoes: the cache of resolved identifiers,
the intrusion signals sent and the inputs that pipelines discarded.
-/

namespace EdgeNode

/-- What a failure of the storage came from. -/
inductive StorageCause where
  | sqlite
  | ledger (error : LedgerError)
  | timeseries (error : TimeseriesError)
  | publish (error : PublishError)
  | pipeline (error : EngineError)
  | policy (message : String)
  | clock (message : String)

structure ResolutionCache where
  generation : ℤ := 0
  devices : AList (fun _ : String => SystemId × DeviceState) := ∅
  series : AList (fun _ : SystemId × String × ℤ × String => ℕ) := ∅

structure FaultRecord where
  discarded : ℕ
  lastError : EngineError
  lastAt : ℤ

structure Work (ρ : Type) where
  db : NodeDb ρ
  cache : ResolutionCache := {}
  signals : List IntrusionSignal := []
  discards : AList (fun _ : PipelineId => FaultRecord) := ∅

namespace Collector

/-- Delivery into the device-local pipelines, for the adapters registered by source. -/
structure PipelineDelivery where
  engine : PipelineEngine
  adapters : AList fun _ : String => String

structure Components (ρ : Type) where
  host : Host
  policy : RegistryPolicy ρ
  freshnessLimits : FreshnessLimits := .default
  intrusionChannel : Bool := false
  pipelines : Option PipelineDelivery := none

/-- One clock state and one ledger epoch for all items of an envelope. -/
structure ItemContext where
  principal : IngestPrincipal
  receivedAt : ℤ
  clock : FreshnessSnapshot
  epoch : String

variable {ρ α : Type}

/-! ## Calls into the parts of the database -/

def onNode (m : Tx (NodeDb ρ) StorageCause α) : Tx (Work ρ) StorageCause α :=
  m.on Work.db fun w db => { w with db := db }

def onLedger (m : Tx LedgerDb LedgerError α) : Tx (Work ρ) StorageCause α :=
  onNode ((m.mapError .ledger).on NodeDb.ledger fun db ledger => { db with ledger := ledger })

def onStaging {ε : Type} (cause : ε → StorageCause) (m : Tx StagingDb ε α) :
    Tx (Work ρ) StorageCause α :=
  onNode ((m.mapError cause).on NodeDb.staging fun db staging => { db with staging := staging })

def onDedup (m : Tx DedupTable TimeseriesError α) : Tx (Work ρ) StorageCause α :=
  onNode ((m.mapError .timeseries).on NodeDb.dedup fun db dedup => { db with dedup := dedup })

def onPipelines (m : Tx PipelineDb EngineError α) : Tx (Work ρ) StorageCause α :=
  onNode ((m.mapError .pipeline).on NodeDb.pipelines fun db p => { db with pipelines := p })

def onRegistry (m : Tx (LedgerDb × ρ) String α) : Tx (Work ρ) StorageCause α :=
  onNode ((m.mapError .policy).on (fun db => (db.ledger, db.registry))
    fun db p => { db with ledger := p.1, registry := p.2 })

/-! ## The steps of an item -/

variable (c : Components ρ) (context : ItemContext)

def emitIntrusion (principal : IngestPrincipal) (kind : IntrusionKind) :
    Tx (Work ρ) StorageCause Unit :=
  Tx.modify fun w =>
    if c.intrusionChannel then
      { w with signals := w.signals ++ [⟨principal.principalId, principal.credentialId, kind⟩] }
    else w

def lookupHardware (hardwareId : String) :
    Tx (Work ρ) StorageCause (Option (SystemId × DeviceState)) := do
  let w ← Tx.contents
  match w.cache.devices.lookup hardwareId with
  | some hit => pure (some hit)
  | none =>
    match ← onLedger (Ledger.findAliveByHardwareId hardwareId) with
    | some (systemId, row) =>
      Tx.modify fun w => { w with
        cache := { w.cache with
          devices := w.cache.devices.insert hardwareId (systemId, row.state) } }
      pure (some (systemId, row.state))
    | none => pure none

/-- The device an item is about, if it is registered; `none` when the item names none and the
principal has more than one. -/
def resolveSubject (item : ReadingItem) :
    Tx (Work ρ) StorageCause (Option (Option (SystemId × DeviceState))) :=
  match item.subjectHint with
  | some hardwareId => some <$> lookupHardware hardwareId
  | none =>
    match context.principal.soleSubject with
    | some systemId => do
      let row ← onLedger (Ledger.getDevice systemId)
      pure (some ((row.filter DeviceRow.alive).map fun r => (systemId, r.state)))
    | none => pure none

def itemRejection (item : ReadingItem) (itemIndex : ℕ) : Option Rejection :=
  match validateMeasurementKey item.measurementKey with
  | .error e =>
    some ⟨.malformedMeasurementKey, e.toText, itemPath itemIndex "measurement_key",
      some "canonical measurement key"⟩
  | .ok () =>
    if !item.values.all F64.isFinite then
      some ⟨.valueTypeMismatch, "values must contain only finite numbers",
        itemPath itemIndex "values", some "array of finite numbers"⟩
    else freshnessRejection item itemIndex context.clock c.freshnessLimits

abbrev ItemOutcome := ItemStatus × Option StagedSighting

def rejectItem (reasonCode : ReasonCode) (message : String) (fieldPath schemaHint : Option String) :
    ItemOutcome :=
  (.itemRejected ⟨reasonCode, message, fieldPath, schemaHint⟩, none)

def payloadJson (host : Host) (item : ReadingItem) : String :=
  String.ofList (item.toJson.compact host.showFloat)

/-- An item whose subject is not registered is staged, for a principal that may discover. -/
def unregisteredItem (item : ReadingItem) (itemIndex : ℕ) : ItemOutcome :=
  match item.subjectHint with
  | none => rejectItem .unknownSubject "the principal's sole subject is not registered"
      (itemPath itemIndex "subject_hint") (some "registered subject identifier")
  | some hardwareId =>
    if !context.principal.canStageUnknown then
      rejectItem .unknownSubject "subject is not registered"
        (itemPath itemIndex "subject_hint") (some "registered subject identifier")
    else
      (.stored .staged none, some ⟨hardwareId, payloadJson c.host item⟩)

def resolveSeries (systemId : SystemId) (resolvedKey : String) (channel : ℤ) (variant : String)
    (quarantine : Option QuarantineReason) : Tx (Work ρ) StorageCause ℕ := do
  let w ← Tx.contents
  match w.cache.series.lookup (systemId, resolvedKey, channel, variant) with
  | some id => pure id
  | none =>
    let seriesLevel := quarantine.filter isSeriesLevel
    let id ← onLedger (Ledger.ensureSeries c.host systemId resolvedKey channel variant
      seriesLevel.isSome (seriesLevel.map QuarantineReason.asStr))
    Tx.modify fun w => { w with
      cache := { w.cache with
        series := w.cache.series.insert (systemId, resolvedKey, channel, variant) id } }
    pure id

def FaultRecord.note (discards : AList fun _ : PipelineId => FaultRecord) (id : PipelineId)
    (error : EngineError) (now : ℤ) : AList fun _ : PipelineId => FaultRecord :=
  discards.insert id ⟨(discards.lookup id).elim 1 (fun r => r.discarded + 1), error, now⟩

/-- Delivers one durable item; only a failure of the database ends the envelope. -/
def deliver (pipelines : PipelineDelivery) (item : ReadingItem) :
    Tx (Work ρ) StorageCause Unit := do
  let draw ← Tx.draw
  let receivedAt : InputTime := ⟨c.host.uptimeMs draw, context.clock.trustedWallTimeMs⟩
  match pipelines.adapters.lookup context.principal.configuredSource with
  | none => pure ()
  | some adapter =>
    let outcomes ← onPipelines (pipelines.engine.deliver c.host.toOutside
      { adapter := adapter, subject := item.subjectHint, measurementKey := item.measurementKey,
        channelIndex := item.channelIndex, values := item.values, receivedAt := receivedAt })
    Tx.modify fun w => { w with
      discards := outcomes.foldl (fun discards o =>
        match o.2 with
        | .error e => FaultRecord.note discards o.1 e receivedAt.uptimeMs
        | .ok _ => discards) w.discards }

def newReading (receivedAt : ℤ) (item : ReadingItem) (seriesId : ℕ) (quarantined : Bool) :
    NewReading :=
  let time := restoreDeviceTime receivedAt item.deviceTimeMs item.ageMs item.timeSource
  { seriesId := seriesId, receivedAtMs := receivedAt, deviceTimeMs := time.1,
    timeSource := time.2, values := item.values, rssi := item.rssi, batteryPct := item.batteryPct,
    quarantined := quarantined }

/-- Pipelines see every durable reading in the transaction that stores it. -/
def deliverDurable (item : ReadingItem) : Tx (Work ρ) StorageCause Unit :=
  match c.pipelines with
  | some pipelines => deliver c context pipelines item
  | none => pure ()

def enqueueDurable (seq : ℕ) : Tx (Work ρ) StorageCause Unit := do
  if ← onNode (publicationAdmitted.mapError .publish) then
    let _ ← onNode ((enqueueMeasurement context.epoch seq context.receivedAt).mapError .publish)
    pure ()
  else pure ()

/-- Writes the row of an accepted item; only a durable one goes on to the pipelines and to the
publication log. -/
def storeReading (item : ReadingItem) (seriesId : ℕ) (reason : Option QuarantineReason) :
    Tx (Work ρ) StorageCause ItemOutcome := do
  let seq ← onNode ((insertReadingV3
    (newReading context.receivedAt item seriesId reason.isSome)).mapError .timeseries)
  match reason with
  | some r => pure (.stored .quarantined (some r), none)
  | none =>
    deliverDurable c context item
    enqueueDurable context seq
    pure (.stored .durable none, none)

/-- An item of a registered subject: the registry's verdict, then the row. The registry's reason for
a quarantine is reported before the device's. -/
def registeredItem (item : ReadingItem) (systemId : SystemId) (state : DeviceState) :
    Tx (Work ρ) StorageCause ItemOutcome := do
  match ← onRegistry (c.policy.evaluate systemId item) with
  | .rejectItem reasonCode message => pure (rejectItem reasonCode message none none)
  | .accept resolvedKey channel quarantine =>
    let seriesId ← resolveSeries c systemId resolvedKey channel
      (item.seriesVariant.getD defaultVariant) quarantine
    let reason := quarantine.orElse fun _ =>
      if state = .quarantined then some .deviceQuarantined else none
    storeReading c context item seriesId reason

def processItem (item : ReadingItem) (itemIndex : ℕ) : Tx (Work ρ) StorageCause ItemOutcome := do
  match ← resolveSubject context item with
  | none => pure (rejectItem .unknownSubject "subject_hint required for a multi-subject principal"
      (itemPath itemIndex "subject_hint") (some "one subject identifier from the principal scope"))
  | some resolved =>
    if resolved.any fun r => !context.principal.subjectAllowed r.1 then
      emitIntrusion c context.principal .subjectScopeViolation
      pure (rejectItem .subjectScopeViolation
        "subject is outside the authenticated principal scope"
        (itemPath itemIndex "subject_hint") (some "subject authorized for this principal"))
    else
      match itemRejection c context item itemIndex with
      | some rejection => pure (.itemRejected rejection, none)
      | none =>
        match resolved with
        | none => pure (unregisteredItem c context item itemIndex)
        | some (systemId, state) => registeredItem c context item systemId state

end Collector

end EdgeNode
