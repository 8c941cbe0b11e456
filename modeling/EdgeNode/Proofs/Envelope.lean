import EdgeNode.Collector.Envelope
import EdgeNode.Proofs.Staging

/-!
# What an envelope leaves behind

Every item appends to the readings and to the publication log what its status says, and leaves a
sighting exactly when it is staged (`Processed`). The items of an envelope add up, and the whole is
kept only by the commit of the transaction (`Committed`).
-/

namespace EdgeNode

open Tx

/-! ## Statuses and the rows they stand for -/

namespace ItemStatus

def isReading : ItemStatus → Bool
  | stored .durable _ | stored .quarantined _ => true
  | _ => false

def isQuarantined : ItemStatus → Bool
  | stored .quarantined _ => true
  | _ => false

def isStaged : ItemStatus → Bool
  | stored .staged _ => true
  | _ => false

end ItemStatus

def itemsWhere (p : ItemStatus → Bool) (items : List ReadingItem) (statuses : List ItemStatus) :
    List (ReadingItem × ItemStatus) :=
  (items.zip statuses).filter fun i => p i.2

def ReadingOf (receivedAt : ℤ) (i : ReadingItem × ItemStatus) (row : ℕ × ReadingRow) : Prop :=
  ∃ seriesId, row.2 = (Collector.newReading receivedAt i.1 seriesId i.2.isQuarantined).row

def PublicationOf (receivedAt : ℤ) (reading : ℕ × ReadingRow) (row : ℕ × PublicationRow) : Prop :=
  row.2.kind = .measurement ∧ row.2.readingSeq = some reading.1 ∧ row.2.createdAt = receivedAt

def SightingOf (host : Host) (i : ReadingItem × ItemStatus) (sighting : StagedSighting) : Prop :=
  i.1.subjectHint = some sighting.hardwareId
    ∧ sighting.payloadJson = Collector.payloadJson host i.1

def publishable (activation : ActivationState) (rows : List (ℕ × ReadingRow)) :
    List (ℕ × ReadingRow) :=
  if activation = .discoveryOnly then [] else rows.filter fun r => !r.2.quarantined

variable {ρ : Type}

def Appended (receivedAt : ℤ) (items : List ReadingItem) (statuses : List ItemStatus)
    (before after : NodeDb ρ) : Prop :=
  ∃ rows publications,
    after.readings.rows = before.readings.rows ++ rows
    ∧ List.Forall₂ (ReadingOf receivedAt) (itemsWhere ItemStatus.isReading items statuses) rows
    ∧ after.publications.rows = before.publications.rows ++ publications
    ∧ List.Forall₂ (PublicationOf receivedAt) (publishable before.activation rows) publications

/-- The change of a committed envelope: one status for each item, the rows of the readings and
publications, and after a part of the staged rows that were there one for each staged item. -/
structure Committed (host : Host) (principalId : String) (receivedAt : ℤ)
    (items : List ReadingItem) (statuses : List ItemStatus) (before after : NodeDb ρ) : Prop where
  positional : statuses.length = items.length
  appended : Appended receivedAt items statuses before after
  staged : ∃ kept rows, kept.Sublist before.staging.staged.rows
    ∧ after.staging.staged.rows = kept ++ rows
    ∧ List.Forall₂ (fun i row => ∃ sighting, SightingOf host i sighting
        ∧ Staging.RowOf principalId receivedAt sighting row)
      (itemsWhere ItemStatus.isStaged items statuses) rows

structure Processed (host : Host) (receivedAt : ℤ) (items : List ReadingItem)
    (outcomes : List Collector.ItemOutcome) (before after : NodeDb ρ) : Prop where
  positional : outcomes.length = items.length
  dedup : after.dedup = before.dedup
  staging : after.staging = before.staging
  activation : after.activation = before.activation
  appended : Appended receivedAt items (outcomes.map Prod.fst) before after
  sightings : List.Forall₂ (SightingOf host)
    (itemsWhere ItemStatus.isStaged items (outcomes.map Prod.fst)) (outcomes.filterMap Prod.snd)

/-! ## Adding up -/

section Compose

variable {host : Host} {receivedAt : ℤ} {items items' : List ReadingItem}
  {outcomes outcomes' : List Collector.ItemOutcome} {statuses statuses' : List ItemStatus}
  {db db' db'' : NodeDb ρ}

theorem itemsWhere_append {p : ItemStatus → Bool} (h : statuses.length = items.length) :
    itemsWhere p (items ++ items') (statuses ++ statuses')
      = itemsWhere p items statuses ++ itemsWhere p items' statuses' := by
  unfold itemsWhere
  rw [List.zip_append h.symm, List.filter_append]

theorem publishable_nil (activation : ActivationState) : publishable activation [] = [] := by
  unfold publishable
  split_ifs <;> rfl

theorem publishable_append (activation : ActivationState) (rows rows' : List (ℕ × ReadingRow)) :
    publishable activation (rows ++ rows')
      = publishable activation rows ++ publishable activation rows' := by
  unfold publishable
  split_ifs
  · rfl
  · exact List.filter_append ..

theorem Appended.nothing (h : itemsWhere ItemStatus.isReading items statuses = []) (db : NodeDb ρ) :
    Appended receivedAt items statuses db db :=
  ⟨[], [], by simp, h ▸ .nil, by simp, by rw [publishable_nil]; exact .nil⟩

theorem Appended.trans (h : Appended receivedAt items statuses db db')
    (h' : Appended receivedAt items' statuses' db' db'') (hact : db'.activation = db.activation)
    (hlen : statuses.length = items.length) :
    Appended receivedAt (items ++ items') (statuses ++ statuses') db db'' := by
  obtain ⟨rows, pubs, hr, hrows, hp, hpubs⟩ := h
  obtain ⟨rows', pubs', hr', hrows', hp', hpubs'⟩ := h'
  rw [hact] at hpubs'
  refine ⟨rows ++ rows', pubs ++ pubs', ?_, ?_, ?_, ?_⟩
  · rw [hr', hr, List.append_assoc]
  · rw [itemsWhere_append hlen]
    exact List.rel_append hrows hrows'
  · rw [hp', hp, List.append_assoc]
  · rw [publishable_append]
    exact List.rel_append hpubs hpubs'

theorem Processed.trans (h : Processed host receivedAt items outcomes db db')
    (h' : Processed host receivedAt items' outcomes' db' db'') :
    Processed host receivedAt (items ++ items') (outcomes ++ outcomes') db db'' where
  positional := by simp [h.positional, h'.positional]
  dedup := h'.dedup.trans h.dedup
  staging := h'.staging.trans h.staging
  activation := h'.activation.trans h.activation
  appended := by
    rw [List.map_append]
    exact h.appended.trans h'.appended h.activation (by simp [h.positional])
  sightings := by
    rw [List.map_append, itemsWhere_append (by simp [h.positional]), List.filterMap_append]
    exact List.rel_append h.sightings h'.sightings

end Compose

/-! ## Steps that touch none of these tables -/

structure Untouched (db db' : NodeDb ρ) : Prop where
  readings : db'.readings = db.readings
  publications : db'.publications = db.publications
  dedup : db'.dedup = db.dedup
  staging : db'.staging = db.staging
  activation : db'.activation = db.activation

theorem Untouched.refl (db : NodeDb ρ) : Untouched db db := ⟨rfl, rfl, rfl, rfl, rfl⟩

theorem Untouched.trans {db db' db'' : NodeDb ρ} (h : Untouched db db') (h' : Untouched db' db'') :
    Untouched db db'' where
  readings := h'.readings.trans h.readings
  publications := h'.publications.trans h.publications
  dedup := h'.dedup.trans h.dedup
  staging := h'.staging.trans h.staging
  activation := h'.activation.trans h.activation

theorem Appended.of_untouched {receivedAt : ℤ} {items : List ReadingItem}
    {statuses : List ItemStatus} {db db' db'' : NodeDb ρ} (h : Untouched db db')
    (h' : Appended receivedAt items statuses db' db'') :
    Appended receivedAt items statuses db db'' := by
  obtain ⟨rows, pubs, hr, hrows, hp, hpubs⟩ := h'
  rw [h.activation] at hpubs
  exact ⟨rows, pubs, by rw [hr, h.readings], hrows, by rw [hp, h.publications], hpubs⟩

theorem Processed.of_untouched {host : Host} {receivedAt : ℤ} {items : List ReadingItem}
    {outcomes : List Collector.ItemOutcome} {db db' db'' : NodeDb ρ} (h : Untouched db db')
    (h' : Processed host receivedAt items outcomes db' db'') :
    Processed host receivedAt items outcomes db db'' where
  positional := h'.positional
  dedup := h'.dedup.trans h.dedup
  staging := h'.staging.trans h.staging
  activation := h'.activation.trans h.activation
  appended := h'.appended.of_untouched h
  sightings := h'.sightings

theorem Committed.of_untouched {host : Host} {principalId : String} {receivedAt : ℤ}
    {items : List ReadingItem} {statuses : List ItemStatus} {db db' db'' : NodeDb ρ}
    (h : Untouched db db') (h' : Committed host principalId receivedAt items statuses db' db'') :
    Committed host principalId receivedAt items statuses db db'' where
  positional := h'.positional
  appended := h'.appended.of_untouched h
  staged := by
    obtain ⟨kept, rows, hkept, hrest⟩ := h'.staged
    exact ⟨kept, rows, h.staging ▸ hkept, hrest⟩

theorem Processed.rejected (host : Host) (receivedAt : ℤ) (item : ReadingItem)
    (rejection : Rejection) (db : NodeDb ρ) :
    Processed host receivedAt [item] [(.itemRejected rejection, none)] db db where
  positional := rfl
  dedup := rfl
  staging := rfl
  activation := rfl
  appended := .nothing rfl db
  sightings := .nil

theorem Processed.staged {host : Host} (receivedAt : ℤ) {item : ReadingItem} {hardwareId : String}
    (h : item.subjectHint = some hardwareId) (db : NodeDb ρ) :
    Processed host receivedAt [item]
      [(.stored .staged none, some ⟨hardwareId, Collector.payloadJson host item⟩)] db db where
  positional := rfl
  dedup := rfl
  staging := rfl
  activation := rfl
  appended := .nothing rfl db
  sightings := .cons ⟨h, rfl⟩ .nil

namespace Collector

variable {c : Components ρ} {context : ItemContext} {item : ReadingItem} {α : Type} {w : Work ρ}
  {n : ℕ}

theorem wp_onPart {τ ε : Type} {get : NodeDb ρ → τ} {set : NodeDb ρ → τ → NodeDb ρ}
    {cause : ε → StorageCause} {m : Tx τ ε α} {Q : α → Work ρ → ℕ → Prop}
    {E : StorageCause → Work ρ → ℕ → Prop}
    (h : wp m (fun a x n => Q a { w with db := set w.db x } n)
      (fun e x n => E (cause e) { w with db := set w.db x } n) (get w.db) n) :
    wp (onNode ((m.mapError cause).on get set)) Q E w n := by
  unfold onNode
  exact wp_on (wp_on (wp_mapError h))

theorem untouched_onPart {τ ε : Type} {get : NodeDb ρ → τ} {set : NodeDb ρ → τ → NodeDb ρ}
    {cause : ε → StorageCause} (m : Tx τ ε α) (hset : ∀ db x, Untouched db (set db x)) :
    wp (onNode ((m.mapError cause).on get set)) (fun _ w' _ => Untouched w.db w'.db)
      (fun _ _ _ => True) w n :=
  wp_onPart (wp_mono (wp_trivial m) (fun _ x _ _ => hset w.db x) fun _ _ _ _ => trivial)

theorem onLedger_wp (m : Tx LedgerDb LedgerError α) :
    wp (onLedger m) (fun _ w' _ => Untouched w.db w'.db) (fun _ _ _ => True) w n :=
  untouched_onPart m fun _ _ => ⟨rfl, rfl, rfl, rfl, rfl⟩

theorem onPipelines_wp (m : Tx PipelineDb EngineError α) :
    wp (onPipelines m) (fun _ w' _ => Untouched w.db w'.db) (fun _ _ _ => True) w n :=
  untouched_onPart m fun _ _ => ⟨rfl, rfl, rfl, rfl, rfl⟩

theorem onRegistry_wp (m : Tx (LedgerDb × ρ) String α) :
    wp (onRegistry m) (fun _ w' _ => Untouched w.db w'.db) (fun _ _ _ => True) w n :=
  untouched_onPart m fun _ _ => ⟨rfl, rfl, rfl, rfl, rfl⟩

theorem emitIntrusion_wp {principal : IngestPrincipal} {kind : IntrusionKind} :
    wp (emitIntrusion c principal kind) (fun _ w' _ => w'.db = w.db) (fun _ _ _ => True) w n := by
  refine wp_modify ?_
  split_ifs <;> rfl

theorem lookupHardware_wp {hardwareId : String} :
    wp (lookupHardware hardwareId) (fun _ w' _ => Untouched w.db w'.db) (fun _ _ _ => True) w n := by
  unfold lookupHardware
  refine wp_bind (wp_contents ?_)
  split
  · exact wp_pure (.refl _)
  · refine wp_bind (wp_imp (onLedger_wp _) fun r w' n' h => ?_)
    split
    · exact wp_bind (wp_modify (wp_pure h))
    · exact wp_pure h

theorem resolveSubject_wp :
    wp (resolveSubject context item) (fun _ w' _ => Untouched w.db w'.db) (fun _ _ _ => True)
      w n := by
  unfold resolveSubject
  split
  · exact wp_bind (wp_imp lookupHardware_wp fun _ _ _ h => wp_pure h)
  · split
    · exact wp_bind (wp_imp (onLedger_wp _) fun _ _ _ h => wp_pure h)
    · exact wp_pure (.refl _)

theorem resolveSeries_wp {systemId : SystemId} {resolvedKey variant : String} {channel : ℤ}
    {quarantine : Option QuarantineReason} :
    wp (resolveSeries c systemId resolvedKey channel variant quarantine)
      (fun _ w' _ => Untouched w.db w'.db) (fun _ _ _ => True) w n := by
  unfold resolveSeries
  refine wp_bind (wp_contents ?_)
  split
  · exact wp_pure (.refl _)
  · exact wp_bind (wp_imp (onLedger_wp _) fun _ _ _ h => wp_bind (wp_modify (wp_pure h)))

theorem deliver_wp {pipelines : PipelineDelivery} :
    wp (deliver c context pipelines item) (fun _ w' _ => Untouched w.db w'.db)
      (fun _ _ _ => True) w n := by
  unfold deliver
  refine wp_bind (wp_draw ?_)
  dsimp only
  split
  · exact wp_pure (.refl _)
  · exact wp_bind (wp_imp (onPipelines_wp _) fun _ _ _ h => wp_modify h)

theorem insertReading_wp {r : NewReading} :
    wp (onNode ((insertReadingV3 (ρ := ρ) r).mapError .timeseries))
      (fun seq w' _ => ∃ readings, w'.db = { w.db with readings := readings }
        ∧ readings.rows = w.db.readings.rows ++ [(seq, r.row)])
      (fun _ _ _ => True) w n := by
  refine wp_on (wp_mapError ?_)
  unfold insertReadingV3
  split_ifs
  · exact wp_fail trivial
  · refine wp_stmt trivial (fun seq db' h => ?_) fun _ _ => trivial
    split_ifs at h
    split at h
    · rename_i readings hinsert
      simp only [Except.ok.injEq, Prod.mk.injEq] at h
      obtain ⟨rfl, rfl⟩ := h
      obtain ⟨hrows, hlast, -, -⟩ := AutoTable.insert_eq_some hinsert
      exact ⟨readings, rfl, by rw [hlast]; exact hrows⟩
    · simp at h

theorem enqueueMeasurement_wp {epoch : String} {seq : ℕ} {now : ℤ} :
    wp (onNode ((enqueueMeasurement (ρ := ρ) epoch seq now).mapError .publish))
      (fun _ w' _ => ∃ publications, w'.db = { w.db with publications := publications }
        ∧ ∃ id, publications.rows
          = w.db.publications.rows ++ [(id, ⟨epoch, .measurement, some seq, now⟩)])
      (fun _ _ _ => True) w n := by
  refine wp_on (wp_mapError (wp_bind (wp_bind (wp_query trivial ?_))))
  split_ifs
  · refine wp_pure (wp_stmt trivial (fun _ db' h => ?_) fun _ _ => trivial)
    split at h
    · rename_i log hinsert
      simp only [Except.ok.injEq, Prod.mk.injEq] at h
      obtain ⟨-, rfl⟩ := h
      exact ⟨log, rfl, _, (AutoTable.insert_eq_some hinsert).1⟩
    · simp at h
  · exact wp_fail trivial

theorem deliverDurable_wp :
    wp (deliverDurable c context item) (fun _ w' _ => Untouched w.db w'.db) (fun _ _ _ => True)
      w n := by
  unfold deliverDurable
  split
  · exact deliver_wp
  · exact wp_pure (.refl _)

theorem enqueueDurable_wp {seq : ℕ} (row : ReadingRow) (hrow : row.quarantined = false) :
    wp (enqueueDurable context seq)
      (fun _ w' _ => ∃ publications new, w'.db = { w.db with publications := publications }
        ∧ publications.rows = w.db.publications.rows ++ new
        ∧ List.Forall₂ (PublicationOf context.receivedAt)
          (publishable w.db.activation [(seq, row)]) new)
      (fun _ _ _ => True) w n := by
  refine wp_bind (wp_on (wp_mapError (wp_query trivial ?_)))
  split_ifs with hadmitted
  · refine wp_bind (wp_imp enqueueMeasurement_wp fun _ w' _ h => wp_pure ?_)
    obtain ⟨publications, hdb, id, hid⟩ := h
    have hpub : publishable w.db.activation [(seq, row)] = [(seq, row)] := by
      unfold publishable
      rw [if_neg (by simpa using hadmitted)]
      simp [hrow]
    refine ⟨publications, _, hdb, hid, ?_⟩
    rw [hpub]
    exact .cons ⟨rfl, rfl, rfl⟩ .nil
  · have hpub : publishable w.db.activation [(seq, row)] = [] := by
      unfold publishable
      rw [if_pos (by simpa using hadmitted)]
    refine wp_pure ⟨_, [], rfl, by simp, ?_⟩
    rw [hpub]
    exact .nil

theorem storeReading_wp {seriesId : ℕ} {reason : Option QuarantineReason} :
    wp (storeReading c context item seriesId reason)
      (fun o w' _ => Processed c.host context.receivedAt [item] [o] w.db w'.db)
      (fun _ _ _ => True) w n := by
  unfold storeReading
  refine wp_bind (wp_imp insertReading_wp fun seq w₁ _ h₁ => ?_)
  obtain ⟨readings, hdb₁, hrows⟩ := h₁
  cases reason with
  | some r =>
    refine wp_pure ?_
    rw [hdb₁]
    refine ⟨rfl, rfl, rfl, rfl, ⟨_, [], hrows, .cons ⟨seriesId, rfl⟩ .nil, by simp, ?_⟩, .nil⟩
    unfold publishable
    split_ifs <;> exact .nil
  | none =>
    refine wp_bind (wp_imp deliverDurable_wp fun _ w₂ _ h₂ => ?_)
    rw [hdb₁] at h₂
    refine wp_bind (wp_imp (enqueueDurable_wp (newReading context.receivedAt item seriesId false).row
      rfl) fun _ w₃ _ h₃ => wp_pure ?_)
    obtain ⟨publications, new, hdb₃, hnew, hpublished⟩ := h₃
    rw [h₂.activation] at hpublished
    rw [h₂.publications] at hnew
    rw [hdb₃]
    exact ⟨rfl, h₂.dedup, h₂.staging, h₂.activation,
      ⟨_, new, h₂.readings ▸ hrows, .cons ⟨seriesId, rfl⟩ .nil, hnew, hpublished⟩, .nil⟩

theorem registeredItem_wp {systemId : SystemId} {state : DeviceState} :
    wp (registeredItem c context item systemId state)
      (fun o w' _ => Processed c.host context.receivedAt [item] [o] w.db w'.db)
      (fun _ _ _ => True) w n := by
  unfold registeredItem
  refine wp_bind (wp_imp (onRegistry_wp _) fun verdict w₁ _ h₁ => ?_)
  cases verdict with
  | rejectItem reasonCode message => exact wp_pure ((Processed.rejected ..).of_untouched h₁)
  | accept resolvedKey channel quarantine =>
    refine wp_bind (wp_imp resolveSeries_wp fun seriesId w₂ _ h₂ => ?_)
    exact wp_imp storeReading_wp fun _ _ _ h => h.of_untouched (h₁.trans h₂)

theorem unregisteredItem_processed {itemIndex : ℕ} (db : NodeDb ρ) :
    Processed c.host context.receivedAt [item] [unregisteredItem c context item itemIndex] db db := by
  unfold unregisteredItem
  split
  · exact Processed.rejected ..
  · rename_i hardwareId hhint
    split_ifs
    · exact Processed.rejected ..
    · exact Processed.staged context.receivedAt hhint db

theorem processItem_wp {itemIndex : ℕ} :
    wp (processItem c context item itemIndex)
      (fun o w' _ => Processed c.host context.receivedAt [item] [o] w.db w'.db)
      (fun _ _ _ => True) w n := by
  unfold processItem
  refine wp_bind (wp_imp resolveSubject_wp fun resolved w₁ _ h₁ => ?_)
  cases resolved with
  | none => exact wp_pure ((Processed.rejected ..).of_untouched h₁)
  | some resolved =>
    dsimp only
    split_ifs
    · refine wp_bind (wp_imp emitIntrusion_wp fun _ w₂ _ h₂ => wp_pure ?_)
      rw [h₂]
      exact (Processed.rejected ..).of_untouched h₁
    · split
      · exact wp_pure ((Processed.rejected ..).of_untouched h₁)
      · cases resolved with
        | none => exact wp_pure ((unregisteredItem_processed _).of_untouched h₁)
        | some device => exact wp_imp registeredItem_wp fun _ _ _ h => h.of_untouched h₁

/-! ## The envelope -/

theorem forall₂_comp {α β γ : Type} {R : α → β → Prop} {S : β → γ → Prop} :
    ∀ {as : List α} {bs : List β} {cs : List γ}, List.Forall₂ R as bs → List.Forall₂ S bs cs →
      List.Forall₂ (fun a c => ∃ b, R a b ∧ S b c) as cs
  | _, _, _, .nil, .nil => .nil
  | _, _, _, .cons h hs, .cons h' hs' => .cons ⟨_, h, h'⟩ (forall₂_comp hs hs')

theorem recordSighting_wp {hardwareId source : String} :
    wp (onStaging .ledger (Ledger.recordSighting c.host hardwareId source))
      (fun _ w' _ => ∃ sightings, w'.db = { w.db with staging.sightings := sightings })
      (fun _ _ _ => True) w n :=
  wp_onPart (wp_bind (wp_draw (wp_exec trivial ⟨_, rfl⟩)))

theorem stagePending_wp {principalId : String} {receivedAt : ℤ} {pending : List StagedSighting} :
    wp (stagePending c principalId receivedAt pending)
      (fun _ w' _ => ∃ staging, Untouched { w.db with staging := staging } w'.db
        ∧ Staging.Admitted principalId receivedAt pending w.db.staging.staged.rows
          staging.staged.rows)
      (fun _ _ _ => True) w n := by
  unfold stagePending
  split_ifs with hempty
  · obtain rfl : pending = [] := List.isEmpty_iff.1 hempty
    exact wp_pure ⟨_, .refl _, _, [], List.Sublist.refl _, by simp, .nil⟩
  · refine wp_bind (wp_onPart (wp_imp Staging.stageSightingsAt_wp fun bounded st _ hst => ?_))
    -- The sightings are noted in a table of their own, next to the staged rows.
    refine wp_bind (wp_imp (wp_forEach
      (I := fun _ w' _ => ∃ sightings, w'.db = { w.db with staging := ⟨st.staged, sightings⟩ })
      (fun s _ w' _ h => wp_imp recordSighting_wp fun _ _ _ h' => ?_) ⟨st.sightings, rfl⟩)
      fun _ w₂ _ h₂ => ?_)
    · obtain ⟨sightings, hdb⟩ := h
      obtain ⟨sightings', hdb'⟩ := h'
      exact ⟨sightings', by rw [hdb', hdb]⟩
    · obtain ⟨sightings, hdb⟩ := h₂
      split_ifs
      · exact wp_imp (onLedger_wp _) fun _ w₃ _ h₃ => ⟨⟨st.staged, sightings⟩, hdb ▸ h₃, hst⟩
      · exact wp_pure ⟨⟨st.staged, sightings⟩, hdb ▸ .refl _, hst⟩

theorem processAll_wp {items : List ReadingItem} :
    wp (Tx.traverse (fun i : ReadingItem × ℕ => processItem c context i.1 i.2) items.zipIdx)
      (fun outcomes w' _ => Processed c.host context.receivedAt items outcomes w.db w'.db)
      (fun _ _ _ => True) w n := by
  -- The condition of the loop is the effect of the items taken so far.
  refine wp_imp (wp_traverse_results
    (I := fun outcomes rest w' _ => ∃ done, items.zipIdx = done ++ rest
      ∧ Processed c.host context.receivedAt (done.map Prod.fst) outcomes w.db w'.db)
    (fun outcomes i rest w' _ h => ?_) [] ⟨[], rfl, ?_⟩) fun outcomes w' _ h => ?_
  · obtain ⟨done, hdone, hprocessed⟩ := h
    refine wp_imp processItem_wp fun o w'' _ h => ⟨done ++ [i], by simp [hdone], ?_⟩
    rw [List.map_append]
    exact hprocessed.trans h
  · exact ⟨rfl, rfl, rfl, rfl, .nothing rfl _, .nil⟩
  · obtain ⟨done, hdone, hprocessed⟩ := h
    rw [List.append_nil] at hdone
    rwa [← hdone, List.zipIdx_map_fst, List.nil_append] at hprocessed

theorem processItems_wp {principal : IngestPrincipal} {clock : FreshnessSnapshot}
    {items : List ReadingItem} :
    wp (processItems c principal clock items)
      (fun statuses w' _ => Committed c.host principal.principalId clock.receivedAtMs items statuses
        w.db w'.db ∧ w'.db.dedup = w.db.dedup)
      (fun _ _ _ => True) w n := by
  unfold processItems
  refine wp_bind (wp_imp (onLedger_wp _) fun epoch w₁ _ h₁ => ?_)
  refine wp_bind (wp_imp processAll_wp fun outcomes w₂ _ h₂ => ?_)
  have hprocessed := h₂.of_untouched h₁
  refine wp_bind (wp_imp stagePending_wp fun _ w₃ _ h₃ => wp_pure ?_)
  obtain ⟨staging, h₃, kept, new, hkept, hrows, hnew⟩ := h₃
  refine ⟨⟨by simp [hprocessed.positional], ?_, kept, new, ?_, ?_,
    forall₂_comp hprocessed.sightings hnew⟩, h₃.dedup.trans hprocessed.dedup⟩
  · obtain ⟨rows, pubs, hrows, hreadings, hpubs, hpublished⟩ := hprocessed.appended
    exact ⟨rows, pubs, h₃.readings.symm ▸ hrows, hreadings, h₃.publications.symm ▸ hpubs, hpublished⟩
  · rwa [hprocessed.staging] at hkept
  · rw [h₃.staging]
    exact hrows

section Claim

/- `K snapshot claimed rows` is what is known of a claim made at the time of the snapshot: its answer,
and the rows it leaves. -/
variable (K : FreshnessSnapshot → Bool → DedupTable → Prop)

def ClaimKeeps (clock : Except String FreshnessSnapshot) (request : IngestRequest)
    (rows : DedupTable) : Prop :=
  ∀ snapshot n, clock = .ok snapshot →
    wp (Dedup.tryClaimEnvelopeBoundedAt request.principal.principalId request.envelope.envelopeId
      snapshot.receivedAtMs DedupLimits.default.toDedupBounds) (fun claimed rows' _ => K snapshot claimed rows')
      (fun _ _ _ => True) rows n

def BodyEnds (c : Components ρ) (clock : Except String FreshnessSnapshot) (request : IngestRequest)
    (commit : Bool) (before : NodeDb ρ) : Tx.Ending × AckStatus → NodeDb ρ → Prop
  | (.commit, status), after => commit = true ∧ ∃ snapshot statuses, clock = .ok snapshot
      ∧ status = .accepted statuses ∧ K snapshot true after.dedup
      ∧ Committed c.host request.principal.principalId snapshot.receivedAtMs request.envelope.items
        statuses before after
  | (.drop, status), _ => (∃ rejection, status = .rejected rejection)
      ∨ status = .duplicate ∧ (commit = true → ∃ snapshot rows, clock = .ok snapshot
        ∧ K snapshot false rows)
  | (.rollback, _), _ => commit = false

variable {K}

theorem syncCache_db (generation : ℤ) : (syncCache generation w).db = w.db := by
  unfold syncCache
  split_ifs <;> rfl

theorem claimEnvelope_wp {snapshot : FreshnessSnapshot} {request : IngestRequest} {commit : Bool}
    (hK : ClaimKeeps K (.ok snapshot) request w.db.dedup) :
    wp (claimEnvelope request snapshot.receivedAtMs commit)
      (fun claimed w' _ => ∃ rows, w'.db = { w.db with dedup := rows }
        ∧ (commit = true → K snapshot claimed rows) ∧ (commit = false → claimed = true))
      (fun _ _ _ => True) w n := by
  unfold claimEnvelope
  cases commit with
  | true =>
    rw [if_pos rfl]
    refine wp_onPart ?_
    exact wp_imp (hK snapshot n rfl) fun _ rows _ h => ⟨rows, rfl, fun _ => h, nofun⟩
  | false => exact wp_pure ⟨_, rfl, nofun, fun _ => rfl⟩

theorem admittedEnvelope_wp {snapshot : FreshnessSnapshot} {request : IngestRequest}
    {commit : Bool} (hK : ClaimKeeps K (.ok snapshot) request w.db.dedup) :
    wp (admittedEnvelope c snapshot request commit)
      (fun r w' _ => BodyEnds K c (.ok snapshot) request commit w.db r w'.db)
      (fun _ _ _ => True) w n := by
  unfold admittedEnvelope
  split_ifs
  · exact wp_fail trivial
  · refine wp_bind (wp_mapError (wp_imp (onLedger_wp _) fun generation w₁ _ h₁ => ?_))
    have hK₁ : ClaimKeeps K (.ok snapshot) request (syncCache generation w₁).db.dedup := by
      rwa [syncCache_db, h₁.dedup]
    refine wp_bind (wp_modify (wp_bind (wp_mapError (wp_imp (claimEnvelope_wp hK₁)
      fun claimed w₂ _ h₂ => ?_))))
    obtain ⟨rows, hdb, hclaim, hvalidate⟩ := h₂
    rw [syncCache_db] at hdb
    split_ifs with hclaimed
    · refine wp_bind (wp_mapError (wp_imp processItems_wp fun statuses w₃ _ h₃ => ?_))
      obtain ⟨hcommitted, hdedup⟩ := h₃
      rw [hdb] at hcommitted hdedup
      -- The change an envelope is judged by has no part in the claims.
      have hcommitted₁ : Committed c.host request.principal.principalId snapshot.receivedAtMs
          request.envelope.items statuses w₁.db w₃.db :=
        ⟨hcommitted.positional, hcommitted.appended, hcommitted.staged⟩
      unfold concludeEnvelope
      cases commit with
      | true =>
        refine wp_pure ⟨rfl, snapshot, statuses, rfl, rfl, ?_, hcommitted₁.of_untouched h₁⟩
        rw [hdedup]
        exact hclaimed ▸ hclaim rfl
      | false => exact wp_bind (wp_bind (wp_modify (wp_pure (wp_pure rfl))))
    · refine wp_pure (.inr ⟨rfl, fun hcommit => ⟨snapshot, rows, rfl, ?_⟩⟩)
      obtain rfl : claimed = false := by simpa using hclaimed
      exact hclaim hcommit

theorem authentication_wp {principal : IngestPrincipal} :
    wp (onNode (authenticationIsCurrentAtSerialization principal)) (fun _ w' _ => w'.db = w.db)
      (fun _ _ _ => True) w n := by
  refine wp_on ?_
  unfold authenticationIsCurrentAtSerialization
  split_ifs
  · exact wp_pure rfl
  · split
    · exact wp_query trivial rfl
    · exact wp_pure rfl

theorem envelopeBody_wp {clock : Except String FreshnessSnapshot} {request : IngestRequest}
    {commit : Bool} (hK : ClaimKeeps K clock request w.db.dedup) :
    wp (envelopeBody c clock request commit)
      (fun r w' _ => BodyEnds K c clock request commit w.db r w'.db) (fun _ _ _ => True) w n := by
  unfold envelopeBody
  refine wp_bind (wp_mapError (wp_imp authentication_wp fun current w₁ _ h₁ => ?_))
  split_ifs
  · split
    · rename_i rejection _
      have hnote : ∀ m, wp (noteRejection c request) (fun _ _ _ => True) (fun _ _ _ => True) w₁ m :=
        fun _ => wp_trivial _
      exact wp_bind (wp_mapError (wp_imp (hnote _) fun _ _ _ _ => wp_pure (.inl ⟨rejection, rfl⟩)))
    · refine wp_bind (wp_ofExcept (fun snapshot hclock => ?_) fun _ _ => trivial)
      cases clock with
      | error e => cases hclock
      | ok snapshot' =>
        obtain rfl := Except.ok.inj hclock
        rw [← h₁] at hK ⊢
        exact admittedEnvelope_wp hK
  · exact wp_fail trivial

variable (K) in
/-- What a submission that is answered has done: it is in the database with all its change if the
answer says accepted, and otherwise has changed nothing. -/
def Answered (c : Components ρ) (clock : Except String FreshnessSnapshot) (request : IngestRequest)
    (before : NodeDb ρ) (status : AckStatus) (after : NodeDb ρ) : Prop :=
  (after = before ∧ ((∃ rejection, status = .rejected rejection)
      ∨ status = .duplicate ∧ ∃ snapshot rows, clock = .ok snapshot ∧ K snapshot false rows))
    ∨ ∃ snapshot statuses, clock = .ok snapshot ∧ status = .accepted statuses
      ∧ K snapshot true after.dedup
      ∧ Committed c.host request.principal.principalId snapshot.receivedAtMs request.envelope.items
        statuses before after

theorem processEnvelopeMode_wp {clock : Except String FreshnessSnapshot} {request : IngestRequest}
    (hK : ClaimKeeps K clock request w.db.dedup) :
    wp (processEnvelopeMode c clock request true)
      (fun ack w' _ => ack.envelopeId = request.envelope.envelopeId
        ∧ Answered K c clock request w.db ack.status w'.db)
      (fun _ w' _ => w'.db = w.db) w n := by
  refine wp_bind (wp_transaction rfl (wp_mono (envelopeBody_wp hK) (fun r w' _ h => ?_)
    fun _ _ _ _ => rfl))
  obtain ⟨ending, status⟩ := r
  cases ending with
  | drop => exact wp_pure ⟨rfl, .inl ⟨rfl, h.imp_right fun h => ⟨h.1, h.2 rfl⟩⟩⟩
  | commit => exact ⟨wp_pure ⟨rfl, .inr h.2⟩, rfl⟩
  | rollback => exact absurd h (by simp [BodyEnds])

theorem submit_answered (s : State ρ) (o : Circumstances) (request : IngestRequest)
    (hK : ClaimKeeps K o.clock request s.db.dedup) :
    (∃ ack, (submit c s o request).1 = .ok ack ∧ ack.envelopeId = request.envelope.envelopeId
        ∧ Answered K c o.clock request s.db ack.status (submit c s o request).2.db)
      ∨ ∃ e, (submit c s o request).1 = .error e ∧ (submit c s o request).2.db = s.db := by
  have h := processEnvelopeMode_wp (c := c) (w := s.toWork) (n := s.draws) hK o.faults
  unfold submit accept
  rcases hr : processEnvelopeMode c o.clock request true ⟨s.toWork, o.faults, s.draws⟩ with
    ⟨e | ack, conn⟩ <;> rw [hr] at h
  · refine .inr ?_
    cases e with
    | storage cause => exact ⟨.noAck, rfl, h⟩
    | clockUntrusted => exact ⟨.clockUntrusted, rfl, h⟩
    | authenticationStale => exact ⟨.authenticationStale, rfl, h⟩
  · exact .inl ⟨ack, rfl, h⟩

end Claim

theorem submit_committed_or_untouched (s : State ρ) (o : Circumstances) (request : IngestRequest) :
    (∃ ack snapshot statuses, (submit c s o request).1 = .ok ack ∧ o.clock = .ok snapshot
        ∧ ack.status = .accepted statuses
        ∧ Committed c.host request.principal.principalId snapshot.receivedAtMs
          request.envelope.items statuses s.db (submit c s o request).2.db)
      ∨ (∀ ack statuses, (submit c s o request).1 = .ok ack → ack.status ≠ .accepted statuses)
        ∧ (submit c s o request).2.db = s.db := by
  rcases submit_answered (c := c) (K := fun _ _ _ => True) s o request fun _ _ _ => wp_trivial _ with
    ⟨ack, hack, -, h⟩ | ⟨e, he, h⟩
  · rcases h with ⟨h, hstatus⟩ | ⟨snapshot, statuses, hclock, hstatus, -, hcommitted⟩
    · refine .inr ⟨fun ack' statuses hack' => ?_, h⟩
      obtain rfl : ack' = ack := Except.ok.inj (hack'.symm.trans hack)
      rcases hstatus with ⟨rejection, hstatus⟩ | ⟨hstatus, -⟩ <;> simp [hstatus]
    · exact .inl ⟨ack, snapshot, statuses, hack, hclock, hstatus, hcommitted⟩
  · exact .inr ⟨fun ack _ hack => (nomatch hack.symm.trans he), h⟩

/-- An accepted envelope is committed with one status for each item, one reading for each durable or
quarantined item in order, one publication for each durable one when publication is admitted, and
one new staged row for each staged one. Whatever else the sender is told, or not told, nothing of
the envelope is in the database. -/
theorem submit_commits_or_changes_nothing (c : Components ρ) (s : State ρ) (o : Circumstances)
    (request : IngestRequest) :
    (∀ ack statuses, (submit c s o request).1 = .ok ack → ack.status = .accepted statuses →
      ∃ snapshot, o.clock = .ok snapshot
        ∧ Committed c.host request.principal.principalId snapshot.receivedAtMs
          request.envelope.items statuses s.db (submit c s o request).2.db)
    ∧ ((∀ ack statuses, (submit c s o request).1 = .ok ack → ack.status ≠ .accepted statuses) →
      (submit c s o request).2.db = s.db) := by
  rcases submit_committed_or_untouched (c := c) s o request with
    ⟨ack, snapshot, statuses, hack, hclock, hstatus, hcommitted⟩ | ⟨hother, hdb⟩
  · refine ⟨fun ack' statuses' hack' hstatus' => ?_, fun hother => ?_⟩
    · obtain rfl : ack = ack' := Except.ok.inj (hack.symm.trans hack')
      obtain rfl : statuses = statuses' := by simpa using hstatus.symm.trans hstatus'
      exact ⟨snapshot, hclock, hcommitted⟩
    · exact absurd hstatus (hother ack statuses hack)
  · exact ⟨fun ack statuses hack hstatus => absurd hstatus (hother ack statuses hack), fun _ => hdb⟩

end Collector

end EdgeNode
