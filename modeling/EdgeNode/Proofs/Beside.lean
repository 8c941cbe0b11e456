import EdgeNode.Proofs.Local

/-!
# The items of an envelope, run twice

Two collectors process the same items, with databases that differ at most in the claims and caches
related in some way `K` (`Beside`). If the two ways an item uses the cache give the same answers and
keep the caches related, whatever else an item does to the ledger, the items have the same outcomes.
-/

namespace EdgeNode

open Tx

structure LedgerDb.Grows (before after : LedgerDb) : Prop where
  devices : after.devices = before.devices
  generation : after.generation = before.generation
  series : ∃ new, after.series.rows = before.series.rows ++ new

namespace LedgerDb.Grows

variable {l l' l'' : LedgerDb}

theorem refl (l : LedgerDb) : Grows l l := ⟨rfl, rfl, [], by simp⟩

theorem trans (h : Grows l l') (h' : Grows l' l'') : Grows l l'' where
  devices := h'.devices.trans h.devices
  generation := h'.generation.trans h.generation
  series := by
    obtain ⟨new, hnew⟩ := h.series
    obtain ⟨new', hnew'⟩ := h'.series
    exact ⟨new ++ new', by rw [hnew', hnew, List.append_assoc]⟩

end LedgerDb.Grows

theorem Ledger.recordEvent_grows {host : Host} {kind detail : String} {systemId : Option SystemId}
    {l : LedgerDb} {n : ℕ} :
    wp (Ledger.recordEvent host kind systemId detail) (fun _ l' _ => l.Grows l') (fun _ _ _ => True)
      l n := by
  refine wp_bind (wp_draw (wp_stmt trivial (fun _ l' h => ?_) fun _ _ => trivial))
  split at h
  · simp only [Except.ok.injEq, Prod.mk.injEq] at h
    obtain ⟨-, rfl⟩ := h
    exact ⟨rfl, rfl, [], by simp⟩
  · simp at h

namespace Collector

variable {ρ α : Type} {F : List Bool → List Bool → Prop} {c : Components ρ}

abbrev CacheRelation := LedgerDb → ResolutionCache → ResolutionCache → Prop

/-- The second collector has the contents of the first, but for the claims `dedup`, and a related
cache. -/
structure Beside (dedup : DedupTable) (K : CacheRelation) (w w' : Work ρ) : Prop where
  db : w'.db = { w.db with dedup := dedup }
  signals : w'.signals = w.signals
  discards : w'.discards = w.discards
  cache : K w.db.ledger w.cache w'.cache

def anyCache : CacheRelation := fun _ _ _ => True

variable {dedup : DedupTable} {K : CacheRelation} {w w' : Work ρ} {n : ℕ}

theorem Beside.forget (h : Beside dedup K w w') : Beside dedup anyCache w w' :=
  ⟨h.db, h.signals, h.discards, trivial⟩

def Agree (F : List Bool → List Bool → Prop) (dedup : DedupTable) (K : CacheRelation)
    (m m' : Tx (Work ρ) StorageCause α) (w w' : Work ρ) (n : ℕ) : Prop :=
  sim F m m' (fun _ => Beside dedup K) (fun _ => Beside dedup anyCache) w w' n

theorem Agree.pure (h : Beside dedup K w w') (a : α) :
    Agree F dedup K (Pure.pure a) (Pure.pure a) w w' n := sim_pure h

theorem Agree.bind {β : Type} {m m' : Tx (Work ρ) StorageCause α}
    {f f' : α → Tx (Work ρ) StorageCause β} (h : Agree F dedup K m m' w w' n)
    (hf : ∀ a w w' n, Beside dedup K w w' → Agree F dedup K (f a) (f' a) w w' n) :
    Agree F dedup K (m >>= f) (m' >>= f') w w' n :=
  sim_bind (sim_imp h fun a w w' hb n => hf a w w' n hb)

theorem Agree.modify {f f' : Work ρ → Work ρ} (h : Beside dedup K (f w) (f' w')) :
    Agree F dedup K (Tx.modify f) (Tx.modify f') w w' n := sim_modify h

/-- What the two uses of the cache, and everything else done to the ledger, have to satisfy for
related caches to stay related. `Safe` says what the registry does to the ledger. -/
structure Tracks (F : List Bool → List Bool → Prop) (c : Components ρ)
    (Safe : LedgerDb → LedgerDb → Prop) (K : CacheRelation) : Prop where
  stepwise : Stepwise F
  stable : ∀ {l l' cache cache'}, Safe l l' → K l cache cache' → K l' cache cache'
  grows : ∀ {l l'}, LedgerDb.Grows l l' → Safe l l'
  policyLocal : ∀ systemId item, Local F (c.policy.evaluate systemId item)
  policySafe : ∀ systemId item db n, wp (c.policy.evaluate systemId item)
    (fun _ db' _ => Safe db.1 db'.1) (fun _ _ _ => True) db n
  hardware : ∀ dedup (w w' : Work ρ) n hardwareId, Beside dedup K w w' →
    Agree F dedup K (lookupHardware hardwareId) (lookupHardware hardwareId) w w' n
  series : ∀ dedup (w w' : Work ρ) n systemId key channel variant quarantine,
    Beside dedup K w w' →
      Agree F dedup K (resolveSeries c systemId key channel variant quarantine)
        (resolveSeries c systemId key channel variant quarantine) w w' n

theorem agree_onPart {τ ε : Type} {get : NodeDb ρ → τ} {set : NodeDb ρ → τ → NodeDb ρ}
    {cause : ε → StorageCause} {m : Tx τ ε α} (hm : Local F m) (hb : Beside dedup K w w')
    (hget : get { w.db with dedup := dedup } = get w.db)
    (hset : ∀ x, set { w.db with dedup := dedup } x = { set w.db x with dedup := dedup })
    (hcache : wp m (fun _ x _ => K (set w.db x).ledger w.cache w'.cache) (fun _ _ _ => True)
      (get w.db) n) :
    Agree F dedup K (onNode ((m.mapError cause).on get set)) (onNode ((m.mapError cause).on get set))
      w w' n := by
  refine sim_on (sim_on (sim_mapError ?_))
  rw [hb.db, hget]
  refine sim_mono (sim_and_wp (hm (get w.db) n) hcache) ?_ ?_
  · rintro _ x _ ⟨rfl, hx⟩
    exact ⟨hset x, hb.signals, hb.discards, hx⟩
  · rintro _ x _ ⟨rfl, -⟩
    exact ⟨hset x, hb.signals, hb.discards, trivial⟩

theorem agree_onStaging {ε : Type} {cause : ε → StorageCause} {m : Tx StagingDb ε α}
    (hm : Local F m) (hb : Beside dedup K w w') :
    Agree F dedup K (onStaging cause m) (onStaging cause m) w w' n :=
  agree_onPart hm hb rfl (fun _ => rfl)
    (wp_mono (wp_trivial m) (fun _ _ _ _ => hb.cache) fun _ _ _ => id)

theorem agree_onPipelines {m : Tx PipelineDb EngineError α} (hm : Local F m)
    (hb : Beside dedup K w w') : Agree F dedup K (onPipelines m) (onPipelines m) w w' n :=
  agree_onPart hm hb rfl (fun _ => rfl)
    (wp_mono (wp_trivial m) (fun _ _ _ _ => hb.cache) fun _ _ _ => id)

def Blind {ε : Type} (F : List Bool → List Bool → Prop) (m : Tx (NodeDb ρ) ε α) : Prop :=
  ∀ dedup db n, sim F m m (fun _ x y => y = { x with dedup := dedup } ∧ x.ledger = db.ledger)
    (fun _ x y => y = { x with dedup := dedup }) db { db with dedup := dedup } n

theorem Blind.agree {ε : Type} {cause : ε → StorageCause} {m : Tx (NodeDb ρ) ε α} (hm : Blind F m)
    (hb : Beside dedup K w w') :
    Agree F dedup K (onNode (m.mapError cause)) (onNode (m.mapError cause)) w w' n := by
  refine sim_on (sim_mapError ?_)
  rw [hb.db]
  refine sim_mono (hm dedup w.db n) ?_ ?_
  · rintro _ x _ ⟨rfl, hledger⟩
    exact ⟨rfl, hb.signals, hb.discards, hledger ▸ hb.cache⟩
  · rintro _ x _ rfl
    exact ⟨rfl, hb.signals, hb.discards, trivial⟩

theorem insertReadingV3_blind (hF : Stepwise F) (r : NewReading) :
    Blind F (insertReadingV3 (ρ := ρ) r) := by
  intro dedup db n
  unfold insertReadingV3
  split_ifs
  · exact sim_fail rfl
  · refine sim_stmt hF rfl (fun seq x h => ?_) fun e h => ?_
    all_goals
      dsimp only at h ⊢
      split_ifs at h ⊢ with hseries
    · split at h
      · simp only [Except.ok.injEq, Prod.mk.injEq] at h
        obtain ⟨rfl, rfl⟩ := h
        exact ⟨_, rfl, rfl, rfl⟩
      · simp at h
    · exact ⟨h, rfl⟩
    · split at h
      · simp at h
      · exact ⟨h, rfl⟩

theorem publicationAdmitted_blind (hF : Stepwise F) : Blind F (publicationAdmitted (ρ := ρ)) :=
  fun _ _ _ => sim_query hF rfl rfl ⟨rfl, rfl⟩

theorem enqueueMeasurement_blind (hF : Stepwise F) (epoch : String) (seq : ℕ) (now : ℤ) :
    Blind F (enqueueMeasurement (ρ := ρ) epoch seq now) := by
  intro dedup db n
  refine sim_bind (sim_bind (sim_imp (publicationAdmitted_blind hF dedup db n) ?_))
  rintro admitted x _ ⟨rfl, hx⟩ n
  split_ifs
  · refine sim_pure fun n => sim_stmt hF rfl (fun id y h => ?_) fun e h => ?_
    · dsimp only at h ⊢
      split at h
      · rename_i log hlog
        simp only [Except.ok.injEq, Prod.mk.injEq] at h
        obtain ⟨rfl, rfl⟩ := h
        exact ⟨_, rfl, rfl, hx⟩
      · simp at h
    · dsimp only at h ⊢
      split at h
      · simp at h
      · exact ⟨h, rfl⟩
  · exact sim_fail rfl

theorem emitIntrusion_agree {principal : IngestPrincipal} {kind : IntrusionKind}
    (hb : Beside dedup K w w') :
    Agree F dedup K (emitIntrusion c principal kind) (emitIntrusion c principal kind) w w' n := by
  refine .modify ?_
  split_ifs
  · exact ⟨hb.db, by simp only [hb.signals], hb.discards, hb.cache⟩
  · exact hb

section Items

variable {Safe : LedgerDb → LedgerDb → Prop} (ht : Tracks F c Safe K)
include ht

theorem agree_onLedger {m : Tx LedgerDb LedgerError α} (hm : Local F m) (hb : Beside dedup K w w')
    (hgrows : wp m (fun _ l _ => w.db.ledger.Grows l) (fun _ _ _ => True) w.db.ledger n) :
    Agree F dedup K (onLedger m) (onLedger m) w w' n :=
  agree_onPart hm hb rfl (fun _ => rfl)
    (wp_imp hgrows fun _ _ _ h => ht.stable (ht.grows h) hb.cache)

theorem agree_onRegistry {systemId : SystemId} {item : ReadingItem} (hb : Beside dedup K w w') :
    Agree F dedup K (onRegistry (c.policy.evaluate systemId item))
      (onRegistry (c.policy.evaluate systemId item)) w w' n :=
  agree_onPart (ht.policyLocal systemId item) hb rfl (fun _ => rfl)
    (wp_imp (ht.policySafe systemId item _ n) fun _ _ _ h => ht.stable h hb.cache)

variable {context : ItemContext} {item : ReadingItem}

theorem resolveSubject_agree (hb : Beside dedup K w w') :
    Agree F dedup K (resolveSubject context item) (resolveSubject context item) w w' n := by
  unfold resolveSubject
  split
  · exact (ht.hardware dedup w w' n _ hb).bind fun _ _ _ _ hb => .pure hb _
  · split
    · exact (agree_onLedger ht (local_query ht.stepwise _ _) hb (wp_query trivial (.refl _))).bind
        fun _ _ _ _ hb => .pure hb _
    · exact .pure hb _

theorem deliver_agree {pipelines : PipelineDelivery} (hb : Beside dedup K w w') :
    Agree F dedup K (deliver c context pipelines item) (deliver c context pipelines item) w w' n := by
  unfold deliver
  refine Agree.bind (sim_draw hb) fun draw w w' n hb => ?_
  dsimp only
  split
  · exact .pure hb _
  · exact (agree_onPipelines (PipelineEngine.deliver_local ht.stepwise _) hb).bind
      fun outcomes _ _ _ hb => .modify ⟨hb.db, hb.signals, by simp only [hb.discards], hb.cache⟩

theorem enqueueDurable_agree {seq : ℕ} (hb : Beside dedup K w w') :
    Agree F dedup K (enqueueDurable context seq) (enqueueDurable context seq) w w' n := by
  refine ((publicationAdmitted_blind ht.stepwise).agree hb).bind fun admitted w w' n hb => ?_
  split_ifs
  · exact ((enqueueMeasurement_blind ht.stepwise _ _ _).agree hb).bind fun _ _ _ _ hb => .pure hb _
  · exact .pure hb _

theorem storeReading_agree {seriesId : ℕ} {reason : Option QuarantineReason}
    (hb : Beside dedup K w w') :
    Agree F dedup K (storeReading c context item seriesId reason)
      (storeReading c context item seriesId reason) w w' n := by
  unfold storeReading
  refine ((insertReadingV3_blind ht.stepwise _).agree hb).bind fun seq w w' n hb => ?_
  cases reason with
  | some reason => exact .pure hb _
  | none =>
    have hdeliver : Agree F dedup K (deliverDurable c context item) (deliverDurable c context item)
        w w' n := by
      unfold deliverDurable
      split
      · exact deliver_agree ht hb
      · exact .pure hb _
    exact hdeliver.bind fun _ _ _ _ hb => (enqueueDurable_agree ht hb).bind
      fun _ _ _ _ hb => .pure hb _

theorem registeredItem_agree {systemId : SystemId} {state : DeviceState}
    (hb : Beside dedup K w w') :
    Agree F dedup K (registeredItem c context item systemId state)
      (registeredItem c context item systemId state) w w' n := by
  refine (agree_onRegistry ht hb).bind fun verdict w w' n hb => ?_
  cases verdict with
  | rejectItem reasonCode message => exact .pure hb _
  | accept resolvedKey channel quarantine =>
    exact (ht.series dedup w w' n _ _ _ _ _ hb).bind fun _ _ _ _ hb => storeReading_agree ht hb

theorem processItem_agree {itemIndex : ℕ} (hb : Beside dedup K w w') :
    Agree F dedup K (processItem c context item itemIndex) (processItem c context item itemIndex)
      w w' n := by
  refine (resolveSubject_agree ht hb).bind fun resolved w w' n hb => ?_
  cases resolved with
  | none => exact .pure hb _
  | some resolved =>
    dsimp only
    split_ifs
    · exact (emitIntrusion_agree hb).bind fun _ _ _ _ hb => .pure hb _
    · split
      · exact .pure hb _
      · cases resolved with
        | none => exact .pure hb _
        | some device => exact registeredItem_agree ht hb

theorem stagePending_agree {principalId : String} {receivedAt : ℤ} {pending : List StagedSighting}
    (hb : Beside dedup K w w') :
    Agree F dedup K (stagePending c principalId receivedAt pending)
      (stagePending c principalId receivedAt pending) w w' n := by
  unfold stagePending
  split_ifs
  · exact .pure hb _
  · refine (agree_onStaging (Staging.stageSightingsAt_local ht.stepwise _ _ _) hb).bind
      fun bounded w w' n hb => ?_
    have hsightings : Agree F dedup K
        (Tx.forEach (fun s : StagedSighting =>
          onStaging .ledger (Ledger.recordSighting c.host s.hardwareId principalId)) pending)
        (Tx.forEach (fun s : StagedSighting =>
          onStaging .ledger (Ledger.recordSighting c.host s.hardwareId principalId)) pending)
        w w' n :=
      sim_forEach (fun _ _ _ _ hb =>
        agree_onStaging (Ledger.recordSighting_local ht.stepwise _ _) hb) hb
    refine hsightings.bind fun _ w w' n hb => ?_
    split_ifs
    · exact agree_onLedger ht (Ledger.recordEvent_local ht.stepwise _ _ _) hb
        Ledger.recordEvent_grows
    · exact .pure hb _

theorem ledgerEpoch_agree (hb : Beside dedup K w w') :
    Agree F dedup K (onLedger (Ledger.ledgerEpoch c.host)) (onLedger (Ledger.ledgerEpoch c.host))
      w w' n := by
  refine agree_onLedger ht (Ledger.ledgerEpoch_local ht.stepwise) hb
    (wp_bind (wp_query trivial ?_))
  split
  · exact wp_pure (.refl _)
  · exact wp_bind (wp_draw (wp_bind (wp_exec trivial (wp_pure ⟨rfl, rfl, [], by simp⟩))))

theorem processItems_agree (principal : IngestPrincipal) (clock : FreshnessSnapshot)
    (items : List ReadingItem) (hb : Beside dedup K w w') :
    Agree F dedup K (processItems c principal clock items) (processItems c principal clock items)
      w w' n := by
  refine (ledgerEpoch_agree ht hb).bind fun epoch w w' n hb => ?_
  have hitems : Agree F dedup K
      (Tx.traverse (fun i : ReadingItem × ℕ =>
        processItem c ⟨principal, clock.receivedAtMs, clock, epoch⟩ i.1 i.2) items.zipIdx)
      (Tx.traverse (fun i : ReadingItem × ℕ =>
        processItem c ⟨principal, clock.receivedAtMs, clock, epoch⟩ i.1 i.2) items.zipIdx) w w' n :=
    sim_traverse (fun _ _ _ _ hb => processItem_agree ht hb) hb
  exact hitems.bind fun _ _ _ _ hb => (stagePending_agree ht hb).bind fun _ _ _ _ hb => .pure hb _

end Items

end Collector

end EdgeNode
