import EdgeNode.Proofs.Beside
import EdgeNode.Proofs.Envelope
import EdgeNode.Proofs.SeriesKeys

/-!
# The resolution cache

What a cache of the ledger's generation holds is what the ledger says (`Usable`): the devices do not
change within a generation, and series are only added. A collector that reads the ledger instead
executes more reads, and if none of those fails it does the same.
-/

namespace EdgeNode

open Tx

/-! ## What the registry writes -/

namespace Registry

variable {host : Host} {systemId : SystemId} {item : ReadingItem} {α : Type}

def Growing (m : Tx (LedgerDb × RegistryDb) RegistryError α) : Prop :=
  ∀ (l : LedgerDb) db n, l.Grows db.1 →
    wp m (fun _ db' _ => l.Grows db'.1) (fun _ _ _ => True) db n

theorem Growing.pure (a : α) : Growing (Pure.pure a) := fun _ _ _ h => wp_pure h

theorem Growing.fail (e : RegistryError) : Growing (α := α) (Tx.fail e) :=
  fun _ _ _ _ => wp_fail trivial

theorem Growing.bind {β : Type} {m : Tx (LedgerDb × RegistryDb) RegistryError α}
    {f : α → Tx (LedgerDb × RegistryDb) RegistryError β} (hm : Growing m)
    (hf : ∀ a, Growing (f a)) : Growing (m >>= f) :=
  fun l db n h => wp_bind (wp_imp (hm l db n h) fun a db' n' h' => hf a l db' n' h')

theorem Growing.onEntries (m : Tx RegistryDb RegistryError α) : Growing (Registry.onEntries m) :=
  fun _ _ _ h => wp_on (wp_mono (wp_trivial m) (fun _ _ _ _ => h) fun _ _ _ => id)

theorem Growing.onLedger {m : Tx LedgerDb LedgerError α}
    (hm : ∀ l n, wp m (fun _ l' _ => l.Grows l') (fun _ _ _ => True) l n) :
    Growing (Registry.onLedger m) :=
  fun _ _ _ h => wp_on (wp_mapError (wp_imp (hm _ _) fun _ _ _ h' => h.trans h'))

theorem Growing.read (e : LedgerError) (f : LedgerDb → α) :
    Growing (Registry.onLedger (Tx.query e f)) :=
  .onLedger fun _ _ => wp_query trivial (.refl _)

theorem enableEntry_growing (entry : CatalogEntry) (version trigger : String) :
    Growing (enableEntry host entry version trigger) := by
  refine .bind (.onEntries _) fun existing => ?_
  cases existing with
  | some existing => exact .pure _
  | none =>
    refine .bind (.onEntries _) fun collides => ?_
    split_ifs
    · exact .fail _
    · refine .bind (fun _ _ _ h => wp_draw h) fun draw => .bind (.onEntries _) fun _ => ?_
      refine .bind (.onLedger fun _ _ => Ledger.recordEvent_grows) fun _ => ?_
      refine .bind (.onEntries _) fun row => ?_
      cases row with
      | some row => exact .pure _
      | none => exact .fail _

theorem resolveKey_growing : Growing (resolveKey host systemId item) := by
  refine .bind (.onEntries _) fun resolution => ?_
  rcases resolution with _ | entry | ⟨canonical, kind⟩
  · dsimp only
    split
    · exact .bind (enableEntry_growing _ _ _) fun _ => .pure _
    · exact .pure _
  · exact .pure _
  · refine .bind (.read _ _) fun materialized => ?_
    split_ifs
    · exact .pure _
    · exact .pure _

theorem resolveChannel_growing (entry : EntryRow) (resolvedKey : String) :
    Growing (resolveChannel host systemId item entry resolvedKey) := by
  have hsingle : Growing (singleChannel host systemId item resolvedKey) := by
    refine .bind (.read _ _) fun na => .bind (.read _ _) fun zero => ?_
    split_ifs
    · exact .bind (.onLedger fun _ _ => Ledger.recordEvent_grows) fun _ => .pure _
    · exact .pure _
    · exact .pure _
    · exact .pure _
  unfold resolveChannel
  split
  · split_ifs
    · exact .bind hsingle fun _ => .pure _
    · exact .pure _
  · exact .pure _
  · exact .pure _

theorem evaluateItem_growing : Growing (evaluateItem host systemId item) := by
  refine .bind resolveKey_growing fun resolved => ?_
  cases resolved with
  | none => exact .pure _
  | some resolved =>
    dsimp only
    split
    · exact .pure _
    · refine .bind (resolveChannel_growing _ _) fun channel => ?_
      split_ifs
      · exact .pure _
      · refine .bind (.read _ _) fun series => ?_
        split_ifs
        · exact .pure _
        · exact .pure _

end Registry

namespace Collector

/-! ## Caches that say what the ledger says -/

structure Fits (l : LedgerDb) (cache : ResolutionCache) : Prop where
  devices : ∀ hardwareId hit, cache.devices.lookup hardwareId = some hit →
    (Ledger.aliveByHardwareId l hardwareId).map (fun r => (r.1, r.2.state)) = some hit
  series : ∀ systemId key channel variant id,
    cache.series.lookup (systemId, key, channel, variant) = some id →
      (Ledger.findSeries l systemId key channel variant).map Prod.fst = some id

theorem Fits.grows {l l' : LedgerDb} {cache : ResolutionCache} (hl : l.Grows l')
    (h : Fits l cache) : Fits l' cache where
  devices hardwareId hit hhit := by
    have := h.devices hardwareId hit hhit
    unfold Ledger.aliveByHardwareId at this ⊢
    rwa [hl.devices]
  series systemId key channel variant id hid := by
    obtain ⟨new, hnew⟩ := hl.series
    have := h.series systemId key channel variant id hid
    unfold Ledger.findSeries at this ⊢
    rw [hnew, List.find?_append]
    obtain ⟨row, hrow, hid⟩ := Option.map_eq_some_iff.1 this
    rw [hrow, Option.some_or]
    exact congrArg some hid

def PartOf {α β : Type} [DecidableEq α] (m m' : AList fun _ : α => β) : Prop :=
  ∀ k v, m'.lookup k = some v → m.lookup k = some v

section PartOf

variable {α β : Type} [DecidableEq α] {m m' : AList fun _ : α => β} {k : α} {v : β}

theorem lookup_insert_eq_some {k' : α} {v' : β} (h : (m.insert k v).lookup k' = some v') :
    (k' = k ∧ v' = v) ∨ m.lookup k' = some v' := by
  by_cases hk : k' = k
  · subst hk
    rw [AList.lookup_insert] at h
    exact .inl ⟨rfl, (Option.some.inj h).symm⟩
  · rw [AList.lookup_insert_ne hk] at h
    exact .inr h

theorem PartOf.fill (h : PartOf m m') (hk : m.lookup k = some v) : PartOf m (m'.insert k v) := by
  intro k' v' h'
  rcases lookup_insert_eq_some h' with ⟨rfl, rfl⟩ | h'
  · exact hk
  · exact h k' v' h'

theorem PartOf.insert (h : PartOf m m') : PartOf (m.insert k v) (m'.insert k v) := by
  intro k' v' h'
  by_cases hk : k' = k
  · subst hk
    rwa [AList.lookup_insert] at h' ⊢
  · rw [AList.lookup_insert_ne hk] at h' ⊢
    exact h k' v' h'

theorem PartOf.empty (m : AList fun _ : α => β) : PartOf m ∅ := by
  intro k v h
  simp at h

theorem PartOf.lookup_eq_none (h : PartOf m m') (hk : m.lookup k = none) : m'.lookup k = none := by
  by_contra hsome
  obtain ⟨v, hsome⟩ := Option.ne_none_iff_exists'.1 hsome
  exact absurd (h k v hsome) (by simp [hk])

end PartOf

structure Within (l : LedgerDb) (cache cache' : ResolutionCache) : Prop where
  current : cache.generation = l.generation.getD 0
  fits : Fits l cache
  devices : PartOf cache.devices cache'.devices
  series : PartOf cache.series cache'.series

theorem Within.grows {l l' : LedgerDb} {cache cache' : ResolutionCache} (hl : l.Grows l')
    (h : Within l cache cache') : Within l' cache cache' :=
  ⟨by rw [hl.generation, h.current], h.fits.grows hl, h.devices, h.series⟩

theorem Fits.insertDevice {l : LedgerDb} {cache : ResolutionCache} {hardwareId : String}
    {hit : SystemId × DeviceState} (h : Fits l cache)
    (hhit : (Ledger.aliveByHardwareId l hardwareId).map (fun r => (r.1, r.2.state)) = some hit) :
    Fits l { cache with devices := cache.devices.insert hardwareId hit } := by
  refine ⟨fun name other hother => ?_, h.series⟩
  rcases lookup_insert_eq_some hother with ⟨rfl, rfl⟩ | hother
  · exact hhit
  · exact h.devices name other hother

theorem Fits.insertSeries {l : LedgerDb} {cache : ResolutionCache} {systemId : SystemId}
    {key variant : String} {channel : ℤ} {id : ℕ} (h : Fits l cache)
    (hid : (Ledger.findSeries l systemId key channel variant).map Prod.fst = some id) :
    Fits l { cache with series := cache.series.insert (systemId, key, channel, variant) id } := by
  refine ⟨h.devices, fun systemId' key' channel' variant' id' hid' => ?_⟩
  rcases lookup_insert_eq_some hid' with ⟨hkey, rfl⟩ | hid'
  · simp only [Prod.mk.injEq] at hkey
    obtain ⟨rfl, rfl, rfl, rfl⟩ := hkey
    exact hid
  · exact h.series _ _ _ _ _ hid'

theorem Within.insertDevice {l : LedgerDb} {cache cache' : ResolutionCache} {hardwareId : String}
    {hit : SystemId × DeviceState} (h : Within l cache cache')
    (hhit : (Ledger.aliveByHardwareId l hardwareId).map (fun r => (r.1, r.2.state)) = some hit) :
    Within l { cache with devices := cache.devices.insert hardwareId hit }
      { cache' with devices := cache'.devices.insert hardwareId hit } where
  current := h.current
  fits := h.fits.insertDevice hhit
  devices := h.devices.insert
  series := h.series

theorem Within.insertSeries {l : LedgerDb} {cache cache' : ResolutionCache} {systemId : SystemId}
    {key variant : String} {channel : ℤ} {id : ℕ} (h : Within l cache cache')
    (hid : (Ledger.findSeries l systemId key channel variant).map Prod.fst = some id) :
    Within l { cache with series := cache.series.insert (systemId, key, channel, variant) id }
      { cache' with series := cache'.series.insert (systemId, key, channel, variant) id } where
  current := h.current
  fits := h.fits.insertSeries hid
  devices := h.devices
  series := h.series.insert

section Lookups

variable {ρ : Type} {c : Components ρ} {dedup : DedupTable} {w w' : Work ρ} {n : ℕ}

theorem onLedger_query {α : Type} (e : LedgerError) (f : LedgerDb → α) :
    onLedger (ρ := ρ) (Tx.query e f) = Tx.query (.ledger e) fun w => f w.db.ledger := by
  unfold onLedger onNode
  rw [mapError_query, on_query fun _ => rfl, on_query fun _ => rfl]

theorem lookupHardware_agree {hardwareId : String} (hb : Beside dedup Within w w') :
    Agree Padded dedup Within (lookupHardware hardwareId) (lookupHardware hardwareId) w w' n := by
  have hledger : w'.db.ledger = w.db.ledger := by rw [hb.db]
  refine sim_contents ?_
  cases hhit : w.cache.devices.lookup hardwareId with
  | some hit =>
    cases hhit' : w'.cache.devices.lookup hardwareId with
    | some hit' =>
      obtain rfl : hit' = hit := Option.some.inj ((hb.cache.devices _ _ hhit').symm.trans hhit)
      exact sim_pure hb
    | none =>
      -- The second collector reads what the first has in its cache.
      obtain ⟨⟨systemId, row⟩, hfound, rfl⟩ :=
        Option.map_eq_some_iff.1 (hb.cache.fits.devices _ _ hhit)
      dsimp only
      rw [Ledger.findAliveByHardwareId, onLedger_query]
      refine sim_read_right (b := Ledger.aliveByHardwareId w'.db.ledger hardwareId)
        (fun _ => rfl) ?_
      rw [hledger, hfound]
      exact sim_modify_right (sim_pure ⟨hb.db, hb.signals, hb.discards,
        hb.cache.current, hb.cache.fits, hb.cache.devices.fill hhit, hb.cache.series⟩)
  | none =>
    rw [hb.cache.devices.lookup_eq_none hhit]
    dsimp only
    rw [Ledger.findAliveByHardwareId, onLedger_query]
    refine sim_bind (sim_query stepwise_padded hb.forget (by rw [hledger]) fun n => ?_)
    cases hfound : Ledger.aliveByHardwareId w.db.ledger hardwareId with
    | none => exact sim_pure hb
    | some found =>
      refine sim_bind (sim_modify fun n => sim_pure ⟨hb.db, hb.signals, hb.discards, ?_⟩)
      exact hb.cache.insertDevice (by rw [hfound]; rfl)

def SeriesAdded (l l' : LedgerDb) (row : SeriesRow) : Prop :=
  l'.series.rows = l.series.rows ++ [(l'.series.lastId, row)]
    ∧ ∀ r ∈ l.series.rows, r.2.columns ≠ row.columns

theorem ensureSeries_wp {host : Host} {systemId : SystemId} {key variant : String} {channel : ℤ}
    {quarantined : Bool} {reason : Option String} {l : LedgerDb} :
    wp (Ledger.ensureSeries host systemId key channel variant quarantined reason)
      (fun id l' _ => l.Grows l'
        ∧ (Ledger.findSeries l' systemId key channel variant).map Prod.fst = some id
        ∧ (l' = l ∨ ∃ row, row.columns = (systemId, key, channel, variant)
          ∧ row.quarantineReason = reason ∧ SeriesAdded l l' row))
      (fun _ _ _ => True) l n := by
  refine wp_bind (wp_query trivial ?_)
  cases hfound : Ledger.findSeries l systemId key channel variant with
  | some found => exact wp_pure ⟨.refl _, by rw [hfound]; rfl, .inl rfl⟩
  | none =>
    refine wp_bind (wp_draw (wp_stmt trivial (fun id l' h => ?_) fun _ _ => trivial))
    rw [hfound] at h
    dsimp only [Option.isSome_none] at h
    split_ifs at h
    · contradiction
    · split at h
      · rename_i series hinsert
        simp only [Except.ok.injEq, Prod.mk.injEq] at h
        obtain ⟨rfl, rfl⟩ := h
        obtain ⟨hrows, hlast, -, -⟩ := AutoTable.insert_eq_some hinsert
        refine ⟨⟨rfl, rfl, _, hrows⟩, ?_, .inr ⟨_, rfl, rfl, by rw [hlast]; exact hrows, ?_⟩⟩
        · unfold Ledger.findSeries at hfound ⊢
          rw [hrows, List.find?_append, hfound, Option.none_or]
          simp [SeriesRow.hasKey, hlast]
        · intro r hr hcolumns
          exact List.find?_eq_none.1 hfound r hr (SeriesRow.hasKey_iff.2 hcolumns)
      · simp at h

theorem ensureSeries_found {host : Host} {systemId : SystemId} {key variant : String} {channel : ℤ}
    {quarantined : Bool} {reason : Option String} {l : LedgerDb} {found : ℕ × SeriesRow}
    {fs : List Bool} (h : Ledger.findSeries l systemId key channel variant = some found) :
    Ledger.ensureSeries host systemId key channel variant quarantined reason ⟨l, false :: fs, n⟩
      = (.ok found.1, ⟨l, fs, n⟩) := by
  have hread : Tx.query LedgerError.sqlite
      (fun db => Ledger.findSeries db systemId key channel variant) ⟨l, false :: fs, n⟩
      = (.ok (some found), ⟨l, fs, n⟩) := by
    rw [← h]
    rfl
  exact bind_ok hread

theorem resolveSeries_agree {systemId : SystemId} {key variant : String} {channel : ℤ}
    {quarantine : Option QuarantineReason} (hb : Beside dedup Within w w') :
    Agree Padded dedup Within (resolveSeries c systemId key channel variant quarantine)
      (resolveSeries c systemId key channel variant quarantine) w w' n := by
  have hledger : w'.db.ledger = w.db.ledger := by rw [hb.db]
  refine sim_contents ?_
  cases hid : w.cache.series.lookup (systemId, key, channel, variant) with
  | some id =>
    cases hid' : w'.cache.series.lookup (systemId, key, channel, variant) with
    | some id' =>
      obtain rfl : id' = id := Option.some.inj ((hb.cache.series _ _ hid').symm.trans hid)
      exact sim_pure hb
    | none =>
      obtain ⟨⟨found, row⟩, hfound, rfl⟩ :=
        Option.map_eq_some_iff.1 (hb.cache.fits.series _ _ _ _ _ hid)
      rw [← hledger] at hfound
      refine sim_read_right (b := found) (fun fs => ?_) ?_
      · simp only [onLedger, onNode, on, mapError, ensureSeries_found hfound]
        rfl
      · exact sim_modify_right (sim_pure ⟨hb.db, hb.signals, hb.discards,
          hb.cache.current, hb.cache.fits, hb.cache.devices, hb.cache.series.fill hid⟩)
  | none =>
    rw [hb.cache.series.lookup_eq_none hid]
    have hensure : Agree Padded dedup Within
        (onLedger (Ledger.ensureSeries c.host systemId key channel variant
          (quarantine.filter isSeriesLevel).isSome
          ((quarantine.filter isSeriesLevel).map QuarantineReason.asStr)))
        (onLedger (Ledger.ensureSeries c.host systemId key channel variant
          (quarantine.filter isSeriesLevel).isSome
          ((quarantine.filter isSeriesLevel).map QuarantineReason.asStr))) w w' n :=
      agree_onPart (Ledger.ensureSeries_local stepwise_padded _ _ _ _ _ _) hb rfl (fun _ => rfl)
        (wp_imp ensureSeries_wp fun _ _ _ h => hb.cache.grows h.1)
    refine sim_bind (sim_mono (sim_and_wp hensure (P := fun id w => (Ledger.findSeries w.db.ledger
      systemId key channel variant).map Prod.fst = some id) (R := fun _ _ => True)
      (wp_onPart (wp_imp ensureSeries_wp fun _ _ _ h => h.2.1))) (fun id w w' h n => ?_)
      fun _ _ _ h => h.1)
    obtain ⟨hb, hfound⟩ := h
    exact sim_bind (sim_modify fun n => sim_pure ⟨hb.db, hb.signals, hb.discards,
      hb.cache.insertSeries hfound⟩)

end Lookups

theorem tracks_within (c : Components RegistryDb) :
    Tracks Padded c.withRegistry LedgerDb.Grows Within where
  stepwise := stepwise_padded
  stable := fun hl h => h.grows hl
  grows := id
  policyLocal := fun _ _ => local_mapError _ (Registry.evaluateItem_local stepwise_padded)
  policySafe := fun _ _ db n => wp_mapError (Registry.evaluateItem_growing db.1 db n (.refl _))
  hardware := fun _ _ _ _ _ => lookupHardware_agree
  series := fun _ _ _ _ _ _ _ _ _ => resolveSeries_agree

/-! ## Requests -/

/-- What the collector keeps between requests: a cache that says what the ledger says as long as the
ledger has its generation, which a cache with entries is not ahead of. -/
structure Usable (l : LedgerDb) (cache : ResolutionCache) : Prop where
  fits : cache.generation = l.generation.getD 0 → Fits l cache
  past : cache.generation ≤ l.generation.getD 0 ∨ cache.devices = ∅ ∧ cache.series = ∅

theorem Fits.of_empty (l : LedgerDb) {cache : ResolutionCache} (hdevices : cache.devices = ∅)
    (hseries : cache.series = ∅) : Fits l cache :=
  ⟨fun _ _ h => by simp [hdevices] at h, fun _ _ _ _ _ h => by simp [hseries] at h⟩

theorem Usable.of_empty (l : LedgerDb) {cache : ResolutionCache} (hdevices : cache.devices = ∅)
    (hseries : cache.series = ∅) : Usable l cache :=
  ⟨fun _ => .of_empty l hdevices hseries, .inr ⟨hdevices, hseries⟩⟩

theorem Within.usable {l : LedgerDb} {cache cache' : ResolutionCache} (h : Within l cache cache') :
    Usable l cache := ⟨fun _ => h.fits, .inl h.current.le⟩

structure Twins {ρ : Type} (w w' : Work ρ) : Prop where
  db : w'.db = w.db
  signals : w'.signals = w.signals
  discards : w'.discards = w.discards

section Envelope

variable {c : Components RegistryDb} {clock : Except String FreshnessSnapshot}
  {snapshot : FreshnessSnapshot} {request : IngestRequest} {commit : Bool}
  {w w' : Work RegistryDb} {n : ℕ}

theorem syncCache_empty (generation : ℤ) (h : w.cache = {}) :
    (syncCache generation w).cache.devices = ∅ ∧ (syncCache generation w).cache.series = ∅ := by
  unfold syncCache
  split_ifs
  · rw [h]
    exact ⟨rfl, rfl⟩
  · exact ⟨rfl, rfl⟩

theorem syncCache_beside (ht : Twins w w') (hu : Usable w.db.ledger w.cache)
    (hempty : w'.cache = {}) :
    Beside w.db.dedup Within (syncCache (w.db.ledger.generation.getD 0) w)
      (syncCache (w.db.ledger.generation.getD 0) w') := by
  obtain ⟨hdevices, hseries⟩ := syncCache_empty (w.db.ledger.generation.getD 0) hempty
  refine ⟨?_, ?_, ?_, ?_, ?_, hdevices ▸ .empty _, hseries ▸ .empty _⟩
  · rw [syncCache_db, syncCache_db]
    exact ht.db
  · unfold syncCache
    split_ifs <;> exact ht.signals
  · unfold syncCache
    split_ifs <;> exact ht.discards
  · rw [syncCache_db]
    unfold syncCache
    split_ifs with hgeneration
    · exact hgeneration.symm
    · rfl
  · rw [syncCache_db]
    unfold syncCache
    split_ifs with hgeneration
    · exact hu.fits hgeneration.symm
    · exact .of_empty _ rfl rfl

theorem claimEnvelope_agree {receivedAt : ℤ} (hb : Beside w.db.dedup Within w w') :
    sim Padded (claimEnvelope request receivedAt commit) (claimEnvelope request receivedAt commit)
      (fun _ x y => Beside x.db.dedup Within x y ∧ x.db.ledger = w.db.ledger)
      (fun _ x y => y.signals = x.signals ∧ y.discards = x.discards) w w' n := by
  unfold claimEnvelope
  split_ifs
  · unfold onDedup onNode
    refine sim_on (sim_on (sim_mapError ?_))
    rw [hb.db]
    refine sim_mono (Dedup.tryClaimEnvelopeBoundedAt_local stepwise_padded _ _ _ w.db.dedup n) ?_ ?_
    · rintro _ x _ rfl
      exact ⟨⟨rfl, hb.signals, hb.discards, hb.cache⟩, rfl⟩
    · rintro _ x _ rfl
      exact ⟨hb.signals, hb.discards⟩
  · exact sim_pure ⟨hb, rfl⟩

/-- How the two bodies end: what is to be committed is the same, with a cache that goes with it; what
is not to be committed leaves a cache that goes with the ledger as it was. -/
def BodiesEnd (before : LedgerDb) : Tx.Ending × AckStatus → Work RegistryDb → Work RegistryDb → Prop
  | (.commit, _), x, y => Twins x y ∧ Usable x.db.ledger x.cache
  | _, x, y => y.signals = x.signals ∧ y.discards = x.discards ∧ Usable before x.cache

def BodiesFail (before : LedgerDb) (e : ProcessError) (x y : Work RegistryDb) : Prop :=
  y.signals = x.signals ∧ y.discards = x.discards
    ∧ ((∀ cause, e ≠ .storage cause) → Usable before x.cache)

theorem admittedEnvelope_agree (ht : Twins w w') (hu : Usable w.db.ledger w.cache)
    (hempty : w'.cache = {}) :
    sim Padded (admittedEnvelope c.withRegistry snapshot request commit)
      (admittedEnvelope c.withRegistry snapshot request commit)
      (BodiesEnd w.db.ledger) (BodiesFail w.db.ledger) w w' n := by
  unfold admittedEnvelope
  split_ifs
  · exact sim_fail ⟨ht.signals, ht.discards, fun _ => hu⟩
  · rw [Ledger.currentGeneration, onLedger_query, mapError_query]
    refine sim_bind (sim_query stepwise_padded ⟨ht.signals, ht.discards, fun h => absurd rfl (h _)⟩
      (by rw [ht.db]) fun n => ?_)
    refine sim_bind (sim_modify fun n => ?_)
    have hb := syncCache_beside ht hu hempty
    have hdb := syncCache_db (w := w) (w.db.ledger.generation.getD 0)
    generalize syncCache (w.db.ledger.generation.getD 0) w = w at hb hdb ⊢
    rw [← hdb] at hb ⊢
    refine sim_bind (sim_mapError (sim_mono (claimEnvelope_agree hb) ?_ ?_))
    · rintro claimed x y ⟨hb, hledger⟩ n
      rw [← hledger]
      split_ifs
      · refine sim_bind (sim_mapError (sim_mono (sim_and_wp
          (processItems_agree (tracks_within c) _ _ _ hb) (P := fun _ z => z.db.dedup = x.db.dedup)
          (R := fun _ _ => True) (wp_imp processItems_wp fun _ _ _ h => h.2)) ?_ ?_))
        · rintro statuses z z' ⟨hb, hdedup⟩ n
          rw [← hdedup] at hb
          unfold concludeEnvelope
          cases commit with
          | true => exact sim_pure ⟨⟨hb.db, hb.signals, hb.discards⟩, hb.cache.usable⟩
          | false => exact sim_bind (sim_bind (sim_modify fun _ => sim_pure fun _ =>
              sim_pure ⟨hb.signals, hb.discards, .of_empty _ rfl rfl⟩))
        · rintro e z z' ⟨hb, -⟩
          exact ⟨hb.signals, hb.discards, fun h => absurd rfl (h _)⟩
      · exact sim_pure ⟨hb.signals, hb.discards, hb.cache.usable⟩
    · rintro e x y ⟨hsignals, hdiscards⟩
      exact ⟨hsignals, hdiscards, fun h => absurd rfl (h _)⟩

theorem authentication_agree {principal : IngestPrincipal} (hdb : w'.db = w.db) :
    sim Padded (onNode (authenticationIsCurrentAtSerialization principal))
      (onNode (authenticationIsCurrentAtSerialization principal))
      (fun _ x y => x = w ∧ y = w') (fun _ x y => x = w ∧ y = w') w w' n := by
  unfold authenticationIsCurrentAtSerialization
  split_ifs
  · exact sim_on (sim_pure ⟨rfl, rfl⟩)
  · split
    · exact sim_on (sim_query stepwise_padded ⟨rfl, rfl⟩ (by rw [hdb]) ⟨rfl, rfl⟩)
    · exact sim_on (sim_pure ⟨rfl, rfl⟩)

theorem envelopeBody_agree (ht : Twins w w') (hu : Usable w.db.ledger w.cache)
    (hempty : w'.cache = {}) :
    sim Padded (envelopeBody c.withRegistry clock request commit)
      (envelopeBody c.withRegistry clock request commit)
      (BodiesEnd w.db.ledger) (BodiesFail w.db.ledger) w w' n := by
  have hfail : ∀ e, BodiesFail w.db.ledger e w w' := fun _ => ⟨ht.signals, ht.discards, fun _ => hu⟩
  refine sim_bind (sim_mapError (sim_mono (authentication_agree ht.db) ?_ ?_))
  · rintro current x y ⟨rfl, rfl⟩ n
    split_ifs
    · split
      · have hnote : sim Padded (noteRejection c.withRegistry request)
            (noteRejection c.withRegistry request)
            (fun _ z z' => z'.signals = z.signals ∧ z'.discards = z.discards ∧ z.cache = x.cache)
            (fun _ _ _ => False) x y n := by
          unfold noteRejection emitIntrusion
          split_ifs
          · exact sim_modify ⟨by simp only [ht.signals], ht.discards, rfl⟩
          · exact sim_modify ⟨ht.signals, ht.discards, rfl⟩
          · exact sim_pure ⟨ht.signals, ht.discards, rfl⟩
        refine sim_bind (sim_mapError (sim_mono hnote ?_ fun _ _ _ => False.elim))
        rintro _ z z' ⟨hsignals, hdiscards, hcache⟩ n
        exact sim_pure ⟨hsignals, hdiscards, hcache ▸ hu⟩
      · exact sim_bind (sim_ofExcept (fun _ _ _ => admittedEnvelope_agree ht hu hempty)
          fun e _ => hfail e)
    · exact sim_fail (hfail _)
  · rintro e x y ⟨rfl, rfl⟩
    exact hfail _

variable (c clock request commit) in
theorem processEnvelopeMode_agree (ht : Twins w w') (hu : Usable w.db.ledger w.cache)
    (hempty : w'.cache = {}) :
    sim Padded (processEnvelopeMode c.withRegistry clock request commit)
      (processEnvelopeMode c.withRegistry clock request commit)
      (fun _ x y => Twins x y ∧ Usable x.db.ledger x.cache)
      (fun e x y => Twins x y ∧ ((∀ cause, e ≠ .storage cause) → Usable x.db.ledger x.cache))
      w w' n := by
  refine sim_bind (sim_transaction stepwise_padded ⟨ht, fun _ => hu⟩ fun n =>
    sim_mono (envelopeBody_agree ht hu hempty) ?_ ?_)
  · rintro ⟨ending, status⟩ x y h
    cases ending with
    | commit => exact ⟨fun _ => sim_pure h, ⟨ht.db, h.1.signals, h.1.discards⟩,
        fun hno => absurd rfl (hno _)⟩
    | drop => exact fun _ => sim_pure ⟨⟨ht.db, h.1, h.2.1⟩, h.2.2⟩
    | rollback => exact ⟨fun _ => sim_pure ⟨⟨ht.db, h.1, h.2.1⟩, h.2.2⟩, ⟨ht.db, h.1, h.2.1⟩,
        fun hno => absurd rfl (hno _)⟩
  · rintro e x y ⟨hsignals, hdiscards, hcache⟩
    exact ⟨⟨ht.db, hsignals, hdiscards⟩, hcache⟩

end Envelope

/-! ## Runs -/

structure Alike (s s' : State RegistryDb) : Prop where
  twins : Twins s.toWork s'.toWork
  draws : s'.draws = s.draws
  usable : Usable s.db.ledger s.cache

theorem accept_alike {c : Components RegistryDb} {s s' : State RegistryDb} (h : Alike s s')
    (o : Circumstances) (request : IngestRequest) (commit : Bool) :
    ∃ faults, Padded o.faults faults
      ∧ (accept c.withRegistry { s' with cache := {} } { o with faults := faults } request commit).1
        = (accept c.withRegistry s o request commit).1
      ∧ Alike (accept c.withRegistry s o request commit).2
        (accept c.withRegistry { s' with cache := {} } { o with faults := faults } request
          commit).2 := by
  have ht : Twins s.toWork { s'.toWork with cache := {} } :=
    ⟨h.twins.db, h.twins.signals, h.twins.discards⟩
  obtain ⟨after, hpost, hrest⟩ := processEnvelopeMode_agree c o.clock request commit
    (n := s.draws) ht h.usable rfl o.faults
  obtain ⟨faults, hpadded, hsame⟩ := hrest _ (Padded.refl _)
  refine ⟨faults, hpadded, ?_⟩
  unfold accept
  have hdraws : s'.draws = s.draws := h.draws
  rw [hdraws, hsame]
  generalize processEnvelopeMode c.withRegistry o.clock request commit
    ⟨s.toWork, o.faults, s.draws⟩ = r at hpost ⊢
  obtain ⟨e | ack, conn⟩ := r
  · obtain ⟨htwins, husable⟩ := hpost
    cases e with
    | storage cause =>
      exact ⟨rfl, ⟨htwins.db, htwins.signals, htwins.discards⟩, rfl, .of_empty _ rfl rfl⟩
    | clockUntrusted => exact ⟨rfl, htwins, rfl, husable nofun⟩
    | authenticationStale => exact ⟨rfl, htwins, rfl, husable nofun⟩
  · exact ⟨rfl, hpost.1, rfl, hpost.2⟩

inductive SameEvent {ρ : Type} : Event ρ → Event ρ → Prop
  | submit {o : Circumstances} {faults : List Bool} (request : IngestRequest)
      (h : Padded o.faults faults) :
      SameEvent (.submit o request) (.submit { o with faults := faults } request)
  | validate {o : Circumstances} {faults : List Bool} (request : IngestRequest)
      (h : Padded o.faults faults) :
      SameEvent (.validate o request) (.validate { o with faults := faults } request)
  | mutate (change : NodeDb ρ → NodeDb ρ) : SameEvent (.mutate change) (.mutate change)
  | elsewhere (change : NodeDb ρ → NodeDb ρ) : SameEvent (.elsewhere change) (.elsewhere change)

theorem Usable.mutated {db : NodeDb RegistryDb} {cache : ResolutionCache}
    (h : Usable db.ledger cache) (change : NodeDb RegistryDb → NodeDb RegistryDb) :
    Usable (mutated change db).ledger cache := by
  have hgeneration : (Collector.mutated change db).ledger.generation.getD 0
      = db.ledger.generation.getD 0 + 1 := by
    unfold Collector.mutated
    cases db.ledger.generation <;> rfl
  refine ⟨fun hsame => ?_, ?_⟩
  · rcases h.past with hle | ⟨hdevices, hseries⟩
    · omega
    · exact .of_empty _ hdevices hseries
  · rcases h.past with hle | hempty
    · exact .inl (by omega)
    · exact .inr hempty

theorem serve_alike {c : Components RegistryDb} {s s' : State RegistryDb} (h : Alike s s')
    (e : Event RegistryDb) :
    ∃ e', SameEvent e e'
      ∧ (serveUncached c.withRegistry s' e').1 = (serve c.withRegistry s e).1
      ∧ Alike (serve c.withRegistry s e).2 (serveUncached c.withRegistry s' e').2 := by
  cases e with
  | submit o request =>
    obtain ⟨faults, hpadded, hanswer, halike⟩ := accept_alike (c := c) h o request true
    exact ⟨_, .submit request hpadded, congrArg Answer.ack hanswer, halike⟩
  | validate o request =>
    obtain ⟨faults, hpadded, hanswer, halike⟩ := accept_alike (c := c) h o request false
    exact ⟨_, .validate request hpadded,
      congrArg (fun r : Except SubmitError EnvelopeAck =>
        Answer.report (r.map validationReportFromAck)) hanswer, halike⟩
  | mutate change =>
    refine ⟨_, .mutate change, rfl, ⟨?_, h.twins.signals, h.twins.discards⟩, h.draws,
      h.usable.mutated change⟩
    exact congrArg (mutated change) h.twins.db
  | elsewhere change =>
    refine ⟨_, .elsewhere change, rfl, ⟨?_, h.twins.signals, h.twins.discards⟩, h.draws, h.usable⟩
    exact congrArg (fun db => { change db with ledger := db.ledger }) h.twins.db

theorem trace_alike (c : Components RegistryDb) :
    ∀ (events : List (Event RegistryDb)) {s s' : State RegistryDb}, Alike s s' →
      ∃ events', List.Forall₂ SameEvent events events'
        ∧ trace (serveUncached c.withRegistry) s' events' = trace (serve c.withRegistry) s events
  | [], _, _, _ => ⟨[], .nil, rfl⟩
  | e :: events, s, s', h => by
    obtain ⟨e', hsame, hanswer, halike⟩ := serve_alike (c := c) h e
    obtain ⟨events', hsames, htrace⟩ := trace_alike c events halike
    refine ⟨e' :: events', .cons hsame hsames, ?_⟩
    unfold trace
    rw [htrace, hanswer, halike.twins.db]

/-- The cache is invisible: whatever requests come, and whatever fails, between whatever mutations,
the answers and the database after each event are those of the collector that empties its cache
before every request, when the reads it makes for want of a cache do not fail. -/
theorem cache_invisible (c : Components RegistryDb) (s : State RegistryDb)
    (events : List (Event RegistryDb)) :
    ∃ events', List.Forall₂ SameEvent events events'
      ∧ trace (serveUncached c.withRegistry) s events'
        = trace (serve c.withRegistry) { s with cache := {} } events :=
  trace_alike c events ⟨⟨rfl, rfl, rfl⟩, rfl, .of_empty _ rfl rfl⟩

end Collector

end EdgeNode
