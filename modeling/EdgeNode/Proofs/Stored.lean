import EdgeNode.Proofs.Placement

/-!
# The readings of an envelope and their series

An item writes at most an entry of the catalogue and a new series (`Observation`), and a reading of it
goes to a series that its declaration suits. Over the items of an envelope this adds up
(`ItemsStored`), and the envelope keeps all of it or nothing.
-/

namespace EdgeNode

open Tx

namespace Registry

/-- What observing an item writes, one change at a time. A series is new as an unknown one only under
a key without a definition. -/
inductive Observation : LedgerDb × RegistryDb → LedgerDb × RegistryDb → Prop
  | enable {l : LedgerDb} {g : RegistryDb} (row : EntryRow) (hnew : ¬g.Resolves row.measurementKey)
      (hvalid : EdgeNode.validateMeasurementKey row.measurementKey = .ok ())
      (hcatalog : (standardCatalog.find row.measurementKey).isSome = true) :
      Observation (l, g) (l, { g with entries := g.entries ++ [row] })
  | beside {l l' : LedgerDb} {g : RegistryDb} (h : l'.series = l.series) : Observation (l, g) (l', g)
  | series {l l' : LedgerDb} {g : RegistryDb} (row : SeriesRow) (h : NewSeries l l' g row)
      (hreason : row.quarantineReason = some "unknown_key" → ¬g.Resolves row.measurementKey
        ∧ standardCatalog.find row.measurementKey = none) : Observation (l, g) (l', g)

abbrev Observations : LedgerDb × RegistryDb → LedgerDb × RegistryDb → Prop :=
  Relation.ReflTransGen Observation

theorem Observation.move {s s' : LedgerDb × RegistryDb} (h : Observation s s') : Move s s' := by
  cases h with
  | enable row hnew hvalid _ => exact .extend (.entry row hnew hvalid)
  | beside h => exact .beside (.of_eq h)
  | series row h _ => exact .series row h

theorem Observations.moves {s s' : LedgerDb × RegistryDb} (h : Observations s s') : Moves s s' :=
  Relation.ReflTransGen.mono (fun _ _ => Observation.move) _ _ h

variable {l l' : LedgerDb} {g : RegistryDb} {key resolvedKey : String} {systemId : SystemId}
  {declared : Option ℕ} {channel : ℤ}

theorem Observed.observations {db db' : LedgerDb × RegistryDb} (h : Observed key db db') :
    Observations db db' := by
  obtain ⟨l, g⟩ := db
  obtain ⟨l', g'⟩ := db'
  have hseries : l'.series = l.series := by
    obtain ⟨events, hevents⟩ := h.ledger
    rw [show l' = _ from hevents]
  have hbeside : Observation (l, g) (l', g) := .beside hseries
  rcases h.registry with hsame | ⟨hnew, hvalid, row, rfl, hrow⟩
  · obtain rfl : g' = g := hsame
    exact .single hbeside
  · rcases h.catalog with hsame | hcatalog
    · obtain rfl : g' = g := hsame
      exact .single hbeside
    · obtain rfl : g' = { g with entries := g.entries ++ [row] } := hrow
      exact .tail (.single hbeside) (.enable row hnew hvalid hcatalog)

theorem Suits.name (hg : g.WellFormed) (h : Suits l g systemId key declared resolvedKey channel)
    (halias : g.HasAlias resolvedKey) : HasSeries l systemId resolvedKey := by
  obtain ⟨a, ha, hname⟩ := halias
  cases h with
  | unknown hunknown _ => exact absurd (.inr ⟨a, ha, hname⟩) hunknown
  | defined e hdefined _ =>
    cases hdefined with
    | entry _ he hkey => exact absurd (hkey.trans hname.symm) (hg.apart e he a ha)
    | own _ _ _ _ _ _ hown => exact hown
    | canonical _ _ _ he _ _ _ => exact absurd hname.symm (hg.apart e he a ha)

theorem Suits.grammar (hg : g.WellFormed) (h : Suits l g systemId key declared resolvedKey channel)
    (hkey : EdgeNode.validateMeasurementKey key = .ok ()) :
    EdgeNode.validateMeasurementKey resolvedKey = .ok () := by
  cases h with
  | unknown _ _ => exact hkey
  | defined e hdefined _ =>
    cases hdefined with
    | entry _ he _ => exact hkey
    | own _ _ _ _ _ _ _ => exact hkey
    | canonical _ _ _ he _ _ _ => exact hg.grammar e he

end Registry

namespace Collector

open Registry (Observation Observations Suits Placed HasSeries NewSeries)

/-! ## One item -/

def subjectOf (principal : IngestPrincipal) (l : LedgerDb) (item : ReadingItem) : Option SystemId :=
  match item.subjectHint with
  | some hardwareId => (Ledger.aliveByHardwareId l hardwareId).map Prod.fst
  | none => principal.soleSubject

def storedItem (systemId : SystemId) (item : ReadingItem) (seriesId : ℕ) : StoredItem where
  systemId := systemId
  measurementKey := item.measurementKey
  channelIndex := item.channelIndex
  variant := Registry.itemVariant item
  seriesId := seriesId

variable {c : Components RegistryDb} {context : ItemContext} {item : ReadingItem}
  {w w' : Work RegistryDb} {n : ℕ}

def tables (db : NodeDb RegistryDb) : LedgerDb × RegistryDb := (db.ledger, db.registry)

/-- The rows are the readings of the items that have one, each in a series its declaration suits. -/
def ReadingsPlaced (principal : IngestPrincipal) (items : List ReadingItem)
    (statuses : List ItemStatus) (db : NodeDb RegistryDb) (rows : List (ℕ × ReadingRow)) : Prop :=
  List.Forall₂ (fun i row => ∃ systemId, subjectOf principal db.ledger i.1 = some systemId
      ∧ Placed db.ledger db.registry (storedItem systemId i.1 row.2.seriesId))
    (itemsWhere ItemStatus.isReading items statuses) rows

structure ItemsStored (principal : IngestPrincipal) (items : List ReadingItem)
    (statuses : List ItemStatus) (db db' : NodeDb RegistryDb) : Prop where
  positional : statuses.length = items.length
  observations : Observations (tables db) (tables db')
  devices : db'.ledger.devices = db.ledger.devices
  readings : ∃ rows, db'.readings.rows = db.readings.rows ++ rows
    ∧ ReadingsPlaced principal items statuses db' rows

theorem subjectOf_devices {principal : IngestPrincipal} {l l' : LedgerDb}
    (h : l'.devices = l.devices) : subjectOf principal l' item = subjectOf principal l item := by
  unfold subjectOf Ledger.aliveByHardwareId
  rw [h]

theorem ReadingsPlaced.after {principal : IngestPrincipal} {items : List ReadingItem}
    {statuses : List ItemStatus} {db db' : NodeDb RegistryDb} {rows : List (ℕ × ReadingRow)}
    (h : ReadingsPlaced principal items statuses db rows)
    (hmoves : Observations (tables db) (tables db'))
    (hdevices : db'.ledger.devices = db.ledger.devices) :
    ReadingsPlaced principal items statuses db' rows := by
  refine List.Forall₂.imp (fun i row hi => ?_) h
  obtain ⟨systemId, hsubject, hplaced⟩ := hi
  exact ⟨systemId, (subjectOf_devices hdevices).trans hsubject, hmoves.moves.placed hplaced⟩

theorem ItemsStored.trans {principal : IngestPrincipal} {items items' : List ReadingItem}
    {statuses statuses' : List ItemStatus} {db db' db'' : NodeDb RegistryDb}
    (h : ItemsStored principal items statuses db db')
    (h' : ItemsStored principal items' statuses' db' db'') :
    ItemsStored principal (items ++ items') (statuses ++ statuses') db db'' := by
  obtain ⟨rows, hrows, hplaced⟩ := h.readings
  obtain ⟨rows', hrows', hplaced'⟩ := h'.readings
  refine ⟨by simp [h.positional, h'.positional], h.observations.trans h'.observations,
    h'.devices.trans h.devices, rows ++ rows', by rw [hrows', hrows, List.append_assoc], ?_⟩
  unfold ReadingsPlaced
  rw [itemsWhere_append h.positional]
  exact List.rel_append (hplaced.after h'.observations h'.devices) hplaced'

theorem ItemsStored.nothing {principal : IngestPrincipal} {db db' : NodeDb RegistryDb}
    {items : List ReadingItem} {statuses : List ItemStatus}
    (hlength : statuses.length = items.length)
    (hnone : itemsWhere ItemStatus.isReading items statuses = [])
    (hobserved : Observations (tables db) (tables db'))
    (hdevices : db'.ledger.devices = db.ledger.devices) (hreadings : db'.readings = db.readings) :
    ItemsStored principal items statuses db db' :=
  ⟨hlength, hobserved, hdevices, [], by rw [hreadings]; simp, by
    unfold ReadingsPlaced
    rw [hnone]
    exact .nil⟩

theorem lookupHardware_found {hardwareId : String} (hfits : Fits w.db.ledger w.cache) :
    wp (lookupHardware hardwareId)
      (fun r w' _ => w'.db = w.db ∧ Fits w'.db.ledger w'.cache
        ∧ ∀ systemId state, r = some (systemId, state) →
          (Ledger.aliveByHardwareId w.db.ledger hardwareId).map Prod.fst = some systemId)
      (fun _ _ _ => True) w n := by
  unfold lookupHardware
  refine wp_bind (wp_contents ?_)
  cases hhit : w.cache.devices.lookup hardwareId with
  | some hit =>
    refine wp_pure ⟨rfl, hfits, ?_⟩
    rintro systemId state ⟨rfl⟩
    obtain ⟨found, hfound, heq⟩ := Option.map_eq_some_iff.1 (hfits.devices _ _ hhit)
    rw [hfound]
    exact congrArg some (congrArg Prod.fst heq)
  | none =>
    dsimp only
    rw [Ledger.findAliveByHardwareId, onLedger_query]
    refine wp_bind (wp_query trivial ?_)
    cases hfound : Ledger.aliveByHardwareId w.db.ledger hardwareId with
    | none => exact wp_pure ⟨rfl, hfits, by simp⟩
    | some found =>
      refine wp_bind (wp_modify (wp_pure ⟨rfl, hfits.insertDevice (by rw [hfound]; rfl), ?_⟩))
      rintro systemId state ⟨rfl, rfl⟩
      rfl

theorem resolveSubject_found (hfits : Fits w.db.ledger w.cache) :
    wp (resolveSubject context item)
      (fun r w' _ => w'.db = w.db ∧ Fits w'.db.ledger w'.cache
        ∧ ∀ systemId state, r = some (some (systemId, state)) →
          subjectOf context.principal w.db.ledger item = some systemId)
      (fun _ _ _ => True) w n := by
  unfold resolveSubject subjectOf
  cases item.subjectHint with
  | some hardwareId =>
    refine wp_bind (wp_imp (lookupHardware_found hfits) ?_)
    rintro found w₁ n₁ ⟨hdb, hfits₁, hfound⟩
    refine wp_pure ⟨hdb, hfits₁, ?_⟩
    rintro systemId state ⟨rfl⟩
    exact hfound systemId state rfl
  | none =>
    dsimp only
    cases context.principal.soleSubject with
    | none => exact wp_pure ⟨rfl, hfits, by simp⟩
    | some systemId =>
      dsimp only
      rw [Ledger.getDevice, onLedger_query]
      refine wp_bind (wp_query trivial (wp_pure ⟨rfl, hfits, ?_⟩))
      intro systemId' state h
      obtain ⟨row, -, heq⟩ := Option.map_eq_some_iff.1 (Option.some.inj h)
      exact congrArg some (congrArg Prod.fst heq)

theorem resolveSeries_made {systemId : SystemId} {key variant : String} {channel : ℤ}
    {quarantine : Option QuarantineReason} (hfits : Fits w.db.ledger w.cache) :
    wp (resolveSeries c systemId key channel variant quarantine)
      (fun id w' _ => Fits w'.db.ledger w'.cache
        ∧ (Ledger.findSeries w'.db.ledger systemId key channel variant).map Prod.fst = some id
        ∧ ∃ l', w'.db = { w.db with ledger := l' } ∧ l'.devices = w.db.ledger.devices
          ∧ (l' = w.db.ledger ∨ ∃ row, row.columns = (systemId, key, channel, variant)
            ∧ row.quarantineReason = (quarantine.filter isSeriesLevel).map QuarantineReason.asStr
            ∧ SeriesAdded w.db.ledger l' row))
      (fun _ _ _ => True) w n := by
  unfold resolveSeries
  refine wp_bind (wp_contents ?_)
  cases hid : w.cache.series.lookup (systemId, key, channel, variant) with
  | some id => exact wp_pure ⟨hfits, hfits.series _ _ _ _ _ hid, _, rfl, rfl, .inl rfl⟩
  | none =>
    refine wp_bind (wp_onPart (wp_imp ensureSeries_wp ?_))
    rintro id l' n₁ ⟨hgrows, hfound, hmade⟩
    exact wp_bind (wp_modify (wp_pure ⟨(hfits.grows hgrows).insertSeries hfound, hfound, l', rfl,
      hgrows.devices, hmade⟩))

def Aside (w w' : Work RegistryDb) : Prop :=
  w'.db.ledger = w.db.ledger ∧ w'.db.registry = w.db.registry ∧ w'.cache = w.cache

theorem onNode_cache {α : Type} (m : Tx (NodeDb RegistryDb) StorageCause α) :
    wp (onNode m) (fun _ w' _ => w'.cache = w.cache) (fun _ _ _ => True) w n :=
  wp_on (wp_mono (wp_trivial m) (fun _ _ _ _ => rfl) fun _ _ _ => id)

theorem deliverDurable_aside :
    wp (deliverDurable c context item)
      (fun _ w' _ => Aside w w' ∧ w'.db.readings = w.db.readings) (fun _ _ _ => True) w n := by
  unfold deliverDurable
  split
  · unfold deliver
    refine wp_bind (wp_draw ?_)
    dsimp only
    split
    · exact wp_pure ⟨⟨rfl, rfl, rfl⟩, rfl⟩
    · refine wp_bind (wp_onPart (wp_imp (wp_trivial _) fun _ _ _ _ => ?_))
      exact wp_modify ⟨⟨rfl, rfl, rfl⟩, rfl⟩
  · exact wp_pure ⟨⟨rfl, rfl, rfl⟩, rfl⟩

theorem enqueueDurable_aside {seq : ℕ} :
    wp (enqueueDurable context seq)
      (fun _ w' _ => Aside w w' ∧ w'.db.readings = w.db.readings) (fun _ _ _ => True) w n := by
  refine wp_bind (wp_on (wp_mapError (wp_query trivial ?_)))
  split_ifs
  · refine wp_bind (wp_mono (wp_and enqueueMeasurement_wp (onNode_cache _)) ?_ fun _ _ _ _ => trivial)
    rintro _ w₁ n₁ ⟨⟨publications, hdb, -⟩, hcache⟩
    refine wp_pure ?_
    unfold Aside
    rw [hdb]
    exact ⟨⟨rfl, rfl, hcache⟩, rfl⟩
  · exact wp_pure ⟨⟨rfl, rfl, rfl⟩, rfl⟩

theorem storeReading_row {seriesId : ℕ} {reason : Option QuarantineReason} :
    wp (storeReading c context item seriesId reason)
      (fun o w' _ => Aside w w' ∧ o.1.isReading = true
        ∧ ∃ row, w'.db.readings.rows = w.db.readings.rows ++ [row] ∧ row.2.seriesId = seriesId)
      (fun _ _ _ => True) w n := by
  unfold storeReading
  refine wp_bind (wp_mono (wp_and insertReading_wp (onNode_cache _)) ?_ fun _ _ _ _ => trivial)
  rintro seq w₁ n₁ ⟨⟨readings, hdb, hrows⟩, hcache⟩
  have hrow : w₁.db.readings.rows = w.db.readings.rows
      ++ [(seq, (newReading context.receivedAt item seriesId reason.isSome).row)] := by
    rw [hdb]
    exact hrows
  have haside : Aside w w₁ := ⟨by rw [hdb], by rw [hdb], hcache⟩
  cases reason with
  | some r => exact wp_pure ⟨haside, rfl, _, hrow, rfl⟩
  | none =>
    refine wp_bind (wp_imp deliverDurable_aside ?_)
    rintro _ w₂ n₂ ⟨⟨hledger₂, hregistry₂, hcache₂⟩, hreadings₂⟩
    refine wp_bind (wp_imp enqueueDurable_aside ?_)
    rintro _ w₃ n₃ ⟨⟨hledger₃, hregistry₃, hcache₃⟩, hreadings₃⟩
    refine wp_pure ⟨⟨?_, ?_, ?_⟩, rfl,
      (seq, (newReading context.receivedAt item seriesId false).row), ?_, rfl⟩
    · exact hledger₃.trans (hledger₂.trans haside.1)
    · exact hregistry₃.trans (hregistry₂.trans haside.2.1)
    · exact hcache₃.trans (hcache₂.trans haside.2.2)
    · rw [hreadings₃, hreadings₂, hrow]
      rfl

theorem seriesMade_observations {l l' : LedgerDb} {g : RegistryDb} {systemId : SystemId}
    {resolvedKey : String} {channel : ℤ} {quarantine : Option QuarantineReason}
    (hg : g.WellFormed) (hkey : validateMeasurementKey item.measurementKey = .ok ())
    (hsuits : Suits l g systemId item.measurementKey item.channelIndex resolvedKey channel)
    (hunknown : quarantine = some .unknownKey → resolvedKey = item.measurementKey
      ∧ ¬g.Resolves item.measurementKey ∧ standardCatalog.find item.measurementKey = none)
    (hmade : l' = l ∨ ∃ row, row.columns
        = (systemId, resolvedKey, channel, Registry.itemVariant item)
      ∧ row.quarantineReason = (quarantine.filter isSeriesLevel).map QuarantineReason.asStr
      ∧ SeriesAdded l l' row) :
    Observations (l, g) (l', g)
      ∧ Suits l' g systemId item.measurementKey item.channelIndex resolvedKey channel := by
  rcases hmade with rfl | ⟨row, hcolumns, hreason, hadded⟩
  · exact ⟨.refl, hsuits⟩
  · obtain ⟨hdevice, hrowkey, -, -⟩ : row.systemId = systemId ∧ row.measurementKey = resolvedKey
        ∧ row.channelIndex = channel ∧ row.variant = Registry.itemVariant item := by
      simpa [SeriesRow.columns] using hcolumns
    have hnew : NewSeries l l' g row := by
      refine ⟨hadded, fun halias => ?_, ?_⟩
      · rw [hrowkey] at halias ⊢
        rw [hdevice]
        exact hsuits.name hg halias
      · rw [hrowkey]
        exact hsuits.grammar hg hkey
    refine ⟨.single (.series row hnew fun hreason' => ?_), hsuits.newSeries hnew⟩
    -- Of the reasons a series can be quarantined for, only one has this text.
    rw [hreason, Option.map_eq_some_iff] at hreason'
    obtain ⟨reason, hfilter, htext⟩ := hreason'
    have hreason : reason = .unknownKey := by
      cases reason <;> simp [QuarantineReason.asStr] at htext
      rfl
    obtain ⟨rfl, hnone⟩ := hunknown (by
      rw [← hreason]
      exact (Option.filter_eq_some_iff.1 hfilter).1)
    rw [hrowkey]
    exact hnone

theorem registeredItem_stored {systemId : SystemId} {state : DeviceState}
    (hg : w.db.registry.WellFormed) (hfits : Fits w.db.ledger w.cache)
    (hkey : validateMeasurementKey item.measurementKey = .ok ())
    (hsubject : subjectOf context.principal w.db.ledger item = some systemId) :
    wp (registeredItem c.withRegistry context item systemId state)
      (fun o w' _ => Fits w'.db.ledger w'.cache
        ∧ ItemsStored context.principal [item] [o.1] w.db w'.db)
      (fun _ _ _ => True) w n := by
  unfold registeredItem
  have hgrowing : wp (Registry.evaluateItem c.host systemId item) _ _ (tables w.db) n :=
    Registry.evaluateItem_growing w.db.ledger (tables w.db) n (.refl _)
  have hverdict : wp (Registry.evaluateItem c.host systemId item) _ _ (tables w.db) n :=
    Registry.evaluateItem_wp hg
  refine wp_bind (wp_onPart (wp_mapError (wp_mono (wp_and hverdict hgrowing) ?_
    fun _ _ _ _ => trivial)))
  rintro verdict ⟨l₁, g₁⟩ n₁ ⟨⟨hobserved, haccept⟩, hgrows⟩
  have hg₁ : g₁.WellFormed := hobserved.wellFormed hg
  have hfits₁ : Fits l₁ w.cache := hfits.grows hgrows
  cases verdict with
  | rejectItem reasonCode message =>
    exact wp_pure ⟨hfits₁, .nothing rfl rfl hobserved.observations hgrows.devices rfl⟩
  | accept resolvedKey channel quarantine =>
    obtain ⟨hsuits, hunknown⟩ := haccept resolvedKey channel quarantine rfl
    refine wp_bind (wp_imp (resolveSeries_made hfits₁) ?_)
    rintro seriesId w₂ n₂ ⟨hfits₂, hfound, l₂, hdb₂, hdevices₂, hmade⟩
    obtain ⟨hseries, hsuits₂⟩ := seriesMade_observations hg₁ hkey hsuits hunknown hmade
    refine wp_imp storeReading_row ?_
    rintro o w₃ n₃ ⟨⟨hledger, hregistry, hcache⟩, hreading, row, hrows, hid⟩
    rw [hdb₂] at hledger hregistry hrows
    dsimp only at hledger hregistry hrows
    refine ⟨by rw [hledger, hcache]; rwa [hdb₂] at hfits₂, rfl, ?_, ?_, [row], hrows, ?_⟩
    · unfold tables
      rw [hledger, hregistry]
      exact hobserved.observations.trans hseries
    · rw [hledger, hdevices₂]
      exact hgrows.devices
    · have hitems : itemsWhere ItemStatus.isReading [item] [o.1] = [(item, o.1)] := by
        simp [itemsWhere, hreading]
      unfold ReadingsPlaced
      rw [hitems, hledger, hregistry]
      refine .cons ⟨systemId, ?_, ?_⟩ .nil
      · rw [subjectOf_devices (hdevices₂.trans hgrows.devices)]
        exact hsubject
      · rw [hdb₂] at hfound
        obtain ⟨found, hfind, hfst⟩ := Option.map_eq_some_iff.1 hfound
        obtain ⟨hmem, hcolumns⟩ := Ledger.findSeries_eq_some hfind
        obtain ⟨hdevice, hrowkey, hchannel, hvariant⟩ : found.2.systemId = systemId
            ∧ found.2.measurementKey = resolvedKey ∧ found.2.channelIndex = channel
            ∧ found.2.variant = Registry.itemVariant item := by
          simpa [SeriesRow.columns, Registry.itemVariant] using hcolumns
        refine ⟨found.2, ?_, hdevice, hvariant, ?_⟩
        · rwa [show (storedItem systemId item row.2.seriesId).seriesId = found.1 from
            hid.trans hfst.symm]
        · rw [hrowkey, hchannel]
          exact hsuits₂

theorem itemRejection_none {itemIndex : ℕ} (h : itemRejection c context item itemIndex = none) :
    validateMeasurementKey item.measurementKey = .ok () := by
  unfold itemRejection at h
  split at h
  · simp at h
  · assumption

theorem processItem_stored {itemIndex : ℕ} (hg : w.db.registry.WellFormed)
    (hfits : Fits w.db.ledger w.cache) :
    wp (processItem c.withRegistry context item itemIndex)
      (fun o w' _ => Fits w'.db.ledger w'.cache
        ∧ ItemsStored context.principal [item] [o.1] w.db w'.db)
      (fun _ _ _ => True) w n := by
  have hrejected : ∀ rejection, ItemsStored context.principal [item] [.itemRejected rejection]
      w.db w.db := fun _ => .nothing rfl rfl .refl rfl rfl
  unfold processItem
  refine wp_bind (wp_imp (resolveSubject_found hfits) ?_)
  rintro resolved w₁ n₁ ⟨hdb, hfits₁, hsubject⟩
  cases resolved with
  | none => exact wp_pure ⟨hfits₁, by rw [hdb]; exact hrejected _⟩
  | some resolved =>
    dsimp only
    by_cases hscope : (resolved.any fun r => !context.principal.subjectAllowed r.1) = true
    · rw [if_pos hscope]
      refine wp_bind (wp_modify (wp_pure ?_))
      split_ifs
      · exact ⟨hfits₁, by dsimp only; rw [hdb]; exact hrejected _⟩
      · exact ⟨hfits₁, by rw [hdb]; exact hrejected _⟩
    · rw [if_neg hscope]
      cases hitem : itemRejection c.withRegistry context item itemIndex with
      | some rejection => exact wp_pure ⟨hfits₁, by rw [hdb]; exact hrejected _⟩
      | none =>
        cases resolved with
        | none =>
          refine wp_pure ⟨hfits₁, ?_⟩
          rw [hdb]
          unfold unregisteredItem
          split
          · exact hrejected _
          · split_ifs
            · exact hrejected _
            · exact .nothing rfl rfl .refl rfl rfl
        | some device =>
          rw [← hdb] at hg
          rw [← hdb]
          exact registeredItem_stored hg hfits₁ (itemRejection_none hitem)
            (by rw [hdb]; exact hsubject device.1 device.2 rfl)

/-! ## The envelope -/

theorem processAll_stored {items : List ReadingItem} (hg : w.db.registry.WellFormed)
    (hfits : Fits w.db.ledger w.cache) :
    wp (Tx.traverse (fun i : ReadingItem × ℕ => processItem c.withRegistry context i.1 i.2)
        items.zipIdx)
      (fun outcomes w' _ => ItemsStored context.principal items (outcomes.map Prod.fst) w.db w'.db)
      (fun _ _ _ => True) w n := by
  -- The condition of the loop is what the items taken so far have stored.
  refine wp_imp (wp_traverse_results
    (I := fun outcomes rest w' _ => Fits w'.db.ledger w'.cache
      ∧ ∃ done, items.zipIdx = done ++ rest ∧ ItemsStored context.principal (done.map Prod.fst)
        (outcomes.map Prod.fst) w.db w'.db)
    (fun outcomes i rest w' _ h => ?_) [] ⟨hfits, [], rfl, ?_⟩) fun outcomes w' _ h => ?_
  · obtain ⟨hfits', done, hdone, hstored⟩ := h
    have hg' : w'.db.registry.WellFormed := hstored.observations.moves.wellFormed hg
    refine wp_imp (processItem_stored hg' hfits') ?_
    rintro o w'' _ ⟨hfits'', h⟩
    refine ⟨hfits'', done ++ [i], by simp [hdone], ?_⟩
    rw [List.map_append, List.map_append]
    exact hstored.trans h
  · exact .nothing rfl rfl .refl rfl rfl
  · obtain ⟨-, done, hdone, hstored⟩ := h
    rw [List.append_nil] at hdone
    rwa [← hdone, List.zipIdx_map_fst, List.nil_append] at hstored

def AroundItems (db db' : NodeDb RegistryDb) : Prop :=
  db'.ledger.series = db.ledger.series ∧ db'.ledger.devices = db.ledger.devices
    ∧ db'.registry = db.registry ∧ db'.readings = db.readings

theorem AroundItems.observations {db db' : NodeDb RegistryDb} (h : AroundItems db db') :
    Observations (tables db) (tables db') := by
  obtain ⟨hseries, -, hregistry, -⟩ := h
  unfold tables
  rw [hregistry]
  exact .single (.beside hseries)

theorem ItemsStored.around {principal : IngestPrincipal} {items : List ReadingItem}
    {statuses : List ItemStatus} {db₀ db db' db₁ : NodeDb RegistryDb} (hbefore : AroundItems db₀ db)
    (h : ItemsStored principal items statuses db db') (hafter : AroundItems db' db₁) :
    ItemsStored principal items statuses db₀ db₁ := by
  obtain ⟨rows, hrows, hplaced⟩ := h.readings
  refine ⟨h.positional, (hbefore.observations.trans h.observations).trans hafter.observations,
    hafter.2.1.trans (h.devices.trans hbefore.2.1), rows, ?_,
    hplaced.after hafter.observations hafter.2.1⟩
  rw [hafter.2.2.2, hrows, hbefore.2.2.2]

theorem stagePending_around {principalId : String} {receivedAt : ℤ}
    {pending : List StagedSighting} :
    wp (stagePending c principalId receivedAt pending) (fun _ w' _ => AroundItems w.db w'.db)
      (fun _ _ _ => True) w n := by
  have hrefl : AroundItems w.db w.db := ⟨rfl, rfl, rfl, rfl⟩
  unfold stagePending
  split_ifs
  · exact wp_pure hrefl
  · refine wp_bind (wp_onPart (wp_mono (wp_trivial _) ?_ fun _ _ _ => id))
    intro bounded st _ _
    refine wp_bind (wp_imp (wp_forEach (I := fun _ w' _ => AroundItems w.db w'.db)
      (fun s _ w' _ h => wp_imp recordSighting_wp ?_) ⟨rfl, rfl, rfl, rfl⟩) ?_)
    · rintro _ w'' _ ⟨sightings, hdb⟩
      rw [hdb]
      exact h
    · intro _ w₂ _ h₂
      split_ifs
      · refine wp_onPart (wp_bind (wp_draw (wp_stmt trivial ?_ fun _ _ => trivial)))
        intro _ l' h
        split at h
        · simp only [Except.ok.injEq, Prod.mk.injEq] at h
          obtain ⟨-, rfl⟩ := h
          exact h₂
        · simp at h
      · exact wp_pure h₂

theorem processItems_stored {principal : IngestPrincipal} {clock : FreshnessSnapshot}
    {items : List ReadingItem} (hg : w.db.registry.WellFormed) (hfits : Fits w.db.ledger w.cache) :
    wp (processItems c.withRegistry principal clock items)
      (fun statuses w' _ => ItemsStored principal items statuses w.db w'.db)
      (fun _ _ _ => True) w n := by
  have hepoch : wp (onLedger (Ledger.ledgerEpoch c.host))
      (fun _ w' _ => AroundItems w.db w'.db ∧ w'.cache = w.cache) (fun _ _ _ => True) w n := by
    refine wp_onPart (wp_bind (wp_query trivial ?_))
    split
    · exact wp_pure ⟨⟨rfl, rfl, rfl, rfl⟩, rfl⟩
    · exact wp_bind (wp_draw (wp_bind (wp_exec trivial (wp_pure ⟨⟨rfl, rfl, rfl, rfl⟩, rfl⟩))))
  unfold processItems
  refine wp_bind (wp_imp hepoch ?_)
  rintro epoch w₁ n₁ ⟨haround, hcache⟩
  have hg₁ : w₁.db.registry.WellFormed := by rwa [haround.2.2.1]
  have hfits₁ : Fits w₁.db.ledger w₁.cache := by
    rw [hcache]
    exact Registry.SameColumns.fits (.of_eq haround.1) haround.2.1 hfits
  refine wp_bind (wp_imp (processAll_stored hg₁ hfits₁) fun outcomes w₂ _ h₂ => ?_)
  exact wp_bind (wp_imp stagePending_around fun _ w₃ _ h₃ => wp_pure (h₂.around haround h₃))

section Submission

variable {clock : Except String FreshnessSnapshot} {request : IngestRequest}

def BodyStores (request : IngestRequest) (before : NodeDb RegistryDb) (r : Tx.Ending × AckStatus)
    (after : NodeDb RegistryDb) : Prop :=
  (r.1 = .drop ∧ ∀ statuses, r.2 ≠ .accepted statuses)
    ∨ ∃ statuses, r = (.commit, .accepted statuses)
      ∧ ItemsStored request.principal request.envelope.items statuses before after

theorem claimEnvelope_around {receivedAt : ℤ} {commit : Bool} :
    wp (claimEnvelope request receivedAt commit)
      (fun _ w' _ => (∃ rows, w'.db = { w.db with dedup := rows }) ∧ w'.cache = w.cache)
      (fun _ _ _ => True) w n := by
  unfold claimEnvelope
  split_ifs
  · exact wp_onPart (wp_mono (wp_trivial _) (fun _ rows _ _ => ⟨⟨rows, rfl⟩, rfl⟩) fun _ _ _ => id)
  · exact wp_pure ⟨⟨w.db.dedup, rfl⟩, rfl⟩

theorem syncCache_fits (hu : Usable w.db.ledger w.cache) :
    Fits (syncCache (w.db.ledger.generation.getD 0) w).db.ledger
      (syncCache (w.db.ledger.generation.getD 0) w).cache := by
  rw [syncCache_db]
  unfold syncCache
  split_ifs with hgeneration
  · exact hu.fits hgeneration.symm
  · exact .of_empty _ rfl rfl

theorem admittedEnvelope_stored {snapshot : FreshnessSnapshot} (hg : w.db.registry.WellFormed)
    (hu : Usable w.db.ledger w.cache) :
    wp (admittedEnvelope c.withRegistry snapshot request true)
      (fun r w' _ => BodyStores request w.db r w'.db) (fun _ _ _ => True) w n := by
  unfold admittedEnvelope
  split_ifs
  · exact wp_fail trivial
  rw [Ledger.currentGeneration, onLedger_query, mapError_query]
  refine wp_bind (wp_query trivial (wp_bind (wp_modify ?_)))
  have hfits := syncCache_fits hu
  have hdb := syncCache_db (w := w) (w.db.ledger.generation.getD 0)
  generalize syncCache (w.db.ledger.generation.getD 0) w = w₁ at hfits hdb ⊢
  refine wp_bind (wp_mapError (wp_imp claimEnvelope_around ?_))
  rintro claimed w₂ n₂ ⟨⟨rows, hdb₂⟩, hcache₂⟩
  rw [hdb] at hdb₂
  split_ifs
  · have hg₂ : w₂.db.registry.WellFormed := by rwa [hdb₂]
    have hfits₂ : Fits w₂.db.ledger w₂.cache := by
      rw [hcache₂, hdb₂]
      rwa [hdb] at hfits
    refine wp_bind (wp_mapError (wp_imp (processItems_stored hg₂ hfits₂) fun statuses w₃ _ h₃ => ?_))
    refine wp_bind (wp_pure (wp_pure (.inr ⟨statuses, rfl, ?_⟩)))
    exact h₃.around (by rw [hdb₂]; exact ⟨rfl, rfl, rfl, rfl⟩) ⟨rfl, rfl, rfl, rfl⟩
  · exact wp_pure (.inl ⟨rfl, by simp⟩)

theorem envelopeBody_stored (hg : w.db.registry.WellFormed) (hu : Usable w.db.ledger w.cache) :
    wp (envelopeBody c.withRegistry clock request true)
      (fun r w' _ => BodyStores request w.db r w'.db) (fun _ _ _ => True) w n := by
  have hauth : wp (onNode (authenticationIsCurrentAtSerialization request.principal))
      (fun _ w' _ => w' = w) (fun _ _ _ => True) w n := by
    refine wp_on ?_
    unfold authenticationIsCurrentAtSerialization
    split_ifs
    · exact wp_pure rfl
    · split
      · exact wp_query trivial rfl
      · exact wp_pure rfl
  unfold envelopeBody
  refine wp_bind (wp_mapError (wp_imp hauth ?_))
  rintro current _ n₁ rfl
  split_ifs
  · split
    · refine wp_bind (wp_mapError (wp_mono (wp_trivial _) ?_ fun _ _ _ => id))
      exact fun _ _ _ _ => wp_pure (.inl ⟨rfl, by simp⟩)
    · exact wp_bind (wp_ofExcept (fun snapshot _ => admittedEnvelope_stored hg hu)
        fun _ _ => trivial)
  · exact wp_fail trivial

/-- A submission that is accepted has stored its items; any other has changed nothing. -/
theorem submit_stored (s : State RegistryDb) (o : Circumstances) (request : IngestRequest)
    (hg : s.db.registry.WellFormed) (hu : Usable s.db.ledger s.cache) :
    (∃ ack statuses, (submit c.withRegistry s o request).1 = .ok ack
        ∧ ack.status = .accepted statuses
        ∧ ItemsStored request.principal request.envelope.items statuses s.db
          (submit c.withRegistry s o request).2.db)
      ∨ (∀ ack statuses, (submit c.withRegistry s o request).1 = .ok ack →
          ack.status ≠ .accepted statuses)
        ∧ (submit c.withRegistry s o request).2.db = s.db := by
  have h : wp (processEnvelopeMode c.withRegistry o.clock request true)
      (fun ack w' _ => (∃ statuses, ack.status = .accepted statuses
          ∧ ItemsStored request.principal request.envelope.items statuses s.db w'.db)
        ∨ (∀ statuses, ack.status ≠ .accepted statuses) ∧ w'.db = s.db)
      (fun _ w' _ => w'.db = s.db) s.toWork s.draws := by
    refine wp_bind (wp_transaction rfl (wp_mono (envelopeBody_stored hg hu) ?_ fun _ _ _ _ => rfl))
    rintro ⟨ending, status⟩ w' n' (⟨hdrop, hstatus⟩ | ⟨statuses, heq, hstored⟩)
    · obtain rfl : ending = .drop := hdrop
      exact wp_pure (.inr ⟨hstatus, rfl⟩)
    · obtain ⟨rfl, rfl⟩ := Prod.mk.inj heq
      exact ⟨wp_pure (.inl ⟨statuses, rfl, hstored⟩), rfl⟩
  have hrun := h o.faults
  unfold submit accept
  rcases hr : processEnvelopeMode c.withRegistry o.clock request true ⟨s.toWork, o.faults, s.draws⟩
    with ⟨e | ack, conn⟩ <;> rw [hr] at hrun
  · cases e <;> exact .inr ⟨by simp, hrun⟩
  · rcases hrun with ⟨statuses, hstatus, hstored⟩ | ⟨hstatus, hdb⟩
    · exact .inl ⟨ack, statuses, rfl, hstatus, hstored⟩
    · refine .inr ⟨?_, hdb⟩
      rintro _ statuses ⟨rfl⟩
      exact hstatus statuses

end Submission

end Collector

end EdgeNode
