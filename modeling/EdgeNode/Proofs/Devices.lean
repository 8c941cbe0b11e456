import EdgeNode.Ledger.Devices
import EdgeNode.Proofs.Confirmation

/-!
# The identity of a device

Every statement on the devices adds a row under a key that was free, or changes rows that are not
retired and leaves what identifies a device (`Kept`). The index refuses the rest, so the live devices
have different hardware at every commit.
-/

namespace EdgeNode

open Tx

structure DeviceRow.Continues (row row' : DeviceRow) : Prop where
  userLabel : row'.userLabel = row.userLabel
  parent : row'.parent = row.parent
  kind : row'.kind = row.kind
  createdAt : row'.createdAt = row.createdAt
  retired : row.state = .retired → row' = row

def Persist (devices devices' : AList fun _ : SystemId => DeviceRow) : Prop :=
  ∀ id row, devices.lookup id = some row →
    ∃ row', devices'.lookup id = some row' ∧ row.Continues row'

def OneAlive (devices : AList fun _ : SystemId => DeviceRow) : Prop :=
  ∀ id id' row row', devices.lookup id = some row → devices.lookup id' = some row' →
    row.alive → row'.alive → row.hardwareId = row'.hardwareId → id = id'

variable {devices devices' devices'' : AList fun _ : SystemId => DeviceRow}

theorem oneAlive_of_nodup (h : (aliveHardware devices).Nodup) : OneAlive devices := by
  intro id id' row row' hrow hrow' ha ha' hsame
  have hmem : ∀ {id row}, devices.lookup id = some row → row.alive →
      (⟨id, row⟩ : Sigma fun _ : SystemId => DeviceRow)
        ∈ devices.entries.filter fun r => r.2.alive := fun hl ha =>
    List.mem_filter.2 ⟨AList.mem_lookup_iff.1 hl, ha⟩
  have heq := List.inj_on_of_nodup_map h (hmem hrow ha) (hmem hrow' ha') hsame
  exact congrArg Sigma.fst heq

theorem DeviceRow.Continues.refl (row : DeviceRow) : row.Continues row :=
  ⟨rfl, rfl, rfl, rfl, fun _ => rfl⟩

theorem DeviceRow.Continues.trans {row row' row'' : DeviceRow} (h : row.Continues row')
    (h' : row'.Continues row'') : row.Continues row'' where
  userLabel := h'.userLabel.trans h.userLabel
  parent := h'.parent.trans h.parent
  kind := h'.kind.trans h.kind
  createdAt := h'.createdAt.trans h.createdAt
  retired hr := by
    have hsame := h.retired hr
    rw [← hsame]
    exact h'.retired (hsame ▸ hr)

structure Kept (devices devices' : AList fun _ : SystemId => DeviceRow) : Prop where
  persist : Persist devices devices'
  apart : (aliveHardware devices).Nodup → (aliveHardware devices').Nodup

theorem Kept.refl (devices : AList fun _ : SystemId => DeviceRow) : Kept devices devices :=
  ⟨fun _ row h => ⟨row, h, .refl row⟩, id⟩

theorem Kept.of_eq (h : devices' = devices) : Kept devices devices' := h ▸ .refl devices

theorem Kept.trans (h : Kept devices devices') (h' : Kept devices' devices'') :
    Kept devices devices'' where
  persist id row hrow := by
    obtain ⟨row', hrow', hc⟩ := h.persist id row hrow
    obtain ⟨row'', hrow'', hc'⟩ := h'.persist id row' hrow'
    exact ⟨row'', hrow'', hc.trans hc'⟩
  apart := h'.apart ∘ h.apart

namespace Ledger

variable {host : Host} {generate : ℕ → SystemId} {db : LedgerDb} {n : ℕ}

/-! ## The statements -/

theorem updateDevices_wp {p : SystemId → DeviceRow → Bool} {f : DeviceRow → DeviceRow}
    (hf : ∀ id row, p id row → row.Continues (f row)) :
    wp (updateDevices p f)
      (fun _ db' _ => db' = { db with devices := Keyed.updateWhere p f db.devices }
        ∧ Kept db.devices db'.devices) (fun _ _ _ => True) db n := by
  refine wp_stmt trivial (fun count db' hok => ?_) fun _ _ => trivial
  dsimp only at hok
  split_ifs at hok with hnodup
  obtain ⟨-, rfl⟩ := Prod.mk.injEq .. ▸ Except.ok.inj hok
  refine ⟨rfl, fun id row hrow => ?_, fun _ => hnodup⟩
  refine ⟨if p id row then f row else row, by rw [Keyed.lookup_updateWhere, hrow]; rfl, ?_⟩
  split_ifs with hp
  · exact hf id row hp
  · exact .refl row

theorem isDevice_continues {systemId : SystemId} {inState : DeviceState → Bool}
    {f : DeviceRow → DeviceRow} (hretired : inState .retired = false)
    (hf : ∀ row, (f row).userLabel = row.userLabel ∧ (f row).parent = row.parent
      ∧ (f row).kind = row.kind ∧ (f row).createdAt = row.createdAt) (id : SystemId)
    (row : DeviceRow) (hp : isDevice systemId inState id row) : row.Continues (f row) := by
  obtain ⟨hlabel, hparent, hkind, hcreated⟩ := hf row
  refine ⟨hlabel, hparent, hkind, hcreated, fun hr => ?_⟩
  simp only [isDevice, Bool.and_eq_true, hr, hretired, Bool.false_eq_true, and_false] at hp

theorem recordEvent_wp {kind detail : String} {systemId : Option SystemId} :
    wp (recordEvent host kind systemId detail)
      (fun _ db' _ => db'.devices = db.devices ∧ db'.series = db.series) (fun _ _ _ => True)
      db n := by
  refine wp_bind (wp_draw (wp_stmt trivial (fun _ db' hok => ?_) fun _ _ => trivial))
  split at hok
  · obtain ⟨-, rfl⟩ := Prod.mk.injEq .. ▸ Except.ok.inj hok
    exact ⟨rfl, rfl⟩
  · simp at hok

theorem recordEvent_kept {kind detail : String} {systemId : Option SystemId}
    (h : Kept devices db.devices) :
    wp (recordEvent host kind systemId detail) (fun _ db' _ => Kept devices db'.devices)
      (fun _ _ _ => True) db n :=
  wp_imp recordEvent_wp fun _ _ _ h' => h.trans (.of_eq h'.1)

def Registered (devices devices' : AList fun _ : SystemId => DeviceRow) : Prop :=
  ∃ id, id ∉ devices ∧ devices'.keys = id :: devices.keys

theorem addDevice_wp {systemId : SystemId} {row : DeviceRow} :
    wp (addDevice systemId row)
      (fun _ db' _ => Kept db.devices db'.devices ∧ Registered db.devices db'.devices)
      (fun _ _ _ => True) db n := by
  refine wp_stmt trivial (fun _ db' hok => ?_) fun _ _ => trivial
  dsimp only at hok
  split_ifs at hok with hfree hparent hnodup
  obtain ⟨-, rfl⟩ := Prod.mk.injEq .. ▸ Except.ok.inj hok
  refine ⟨⟨fun id r hr => ⟨r, ?_, .refl r⟩, fun _ => hnodup⟩, systemId, hfree, ?_⟩
  · have hne : id ≠ systemId := fun h => hfree (h ▸ AList.lookup_isSome.1 (hr ▸ rfl))
    rwa [AList.lookup_insert_ne hne]
  · rw [AList.keys_insert, List.erase_of_not_mem fun h => hfree (AList.mem_keys.2 h)]

theorem insertDevice_wp {new : NewDevice} :
    wp (insertDevice host generate new)
      (fun _ db' _ => Kept db.devices db'.devices ∧ Registered db.devices db'.devices)
      (fun _ _ _ => True) db n := by
  refine wp_bind (wp_query trivial ?_)
  cases aliveByHardwareId db new.hardwareId with
  | some _ => exact wp_fail trivial
  | none =>
    refine wp_bind (wp_draw (wp_bind (wp_draw (wp_bind (wp_imp addDevice_wp ?_)))))
    rintro _ db' _ ⟨hkept, id, hfree, hkeys⟩
    refine wp_bind (wp_imp recordEvent_wp fun _ db'' _ h => wp_pure ?_)
    rw [h.1]
    exact ⟨hkept, id, hfree, hkeys⟩

theorem activateDevice_kept {systemId : SystemId} :
    wp (activateDevice host systemId) (fun _ db' _ => Kept db.devices db'.devices)
      (fun _ _ _ => True) db n := by
  refine wp_bind (wp_imp (updateDevices_wp (isDevice_continues rfl
    fun _ => ⟨rfl, rfl, rfl, rfl⟩)) fun count db' n' h => ?_)
  by_cases hc : count = 0
  · rw [if_pos hc]
    exact wp_fail trivial
  · rw [if_neg hc]
    exact recordEvent_kept h.2

theorem retireDevice_kept {systemId : SystemId} :
    wp (retireDevice host systemId) (fun _ db' _ => Kept db.devices db'.devices)
      (fun _ _ _ => True) db n := by
  refine wp_bind (wp_draw (wp_bind (wp_imp (updateDevices_wp (isDevice_continues rfl
    fun _ => ⟨rfl, rfl, rfl, rfl⟩)) fun count db' n' h => ?_)))
  by_cases hc : count = 0
  · rw [if_pos hc]
    exact wp_fail trivial
  · rw [if_neg hc]
    exact recordEvent_kept h.2

theorem expireQuarantinedDevices_kept {ttlMs : ℤ} :
    wp (expireQuarantinedDevices host ttlMs) (fun _ db' _ => Kept db.devices db'.devices)
      (fun _ _ _ => True) db n := by
  refine wp_bind (wp_draw (wp_bind (wp_query trivial (wp_bind ?_))))
  refine wp_imp (wp_forEach (I := fun _ db' _ => Kept db.devices db'.devices) ?_ (.refl _))
    fun _ _ _ h => wp_pure h
  intro systemId _ db' n' h
  refine wp_bind (wp_imp (updateDevices_wp (isDevice_continues rfl
    fun _ => ⟨rfl, rfl, rfl, rfl⟩)) fun _ db'' _ h' => ?_)
  exact recordEvent_kept (h.trans h'.2)

/-! ## Replacement -/

def RetiresOnly (hardwareId : String) (devices devices' : AList fun _ : SystemId => DeviceRow) :
    Prop :=
  ∀ id row row', devices.lookup id = some row → row.alive → devices'.lookup id = some row' →
    row'.state = .retired → row.hardwareId = hardwareId

def attachments (db : LedgerDb) : List (ℕ × SystemId) :=
  db.series.rows.map fun r => (r.1, r.2.systemId)

structure Replaced (hardwareId : String) (db db' : LedgerDb) : Prop where
  kept : Kept db.devices db'.devices
  retires : RetiresOnly hardwareId db.devices db'.devices
  attached : attachments db' = attachments db

theorem Replaced.refl {hardwareId : String} : Replaced hardwareId db db where
  kept := .refl _
  retires id row row' hrow ha hrow' hr := by
    obtain rfl := Option.some.inj (hrow.symm.trans hrow')
    simp [DeviceRow.alive, hr] at ha
  attached := rfl

theorem aliveByHardwareId_lookup {hardwareId : String} {id : SystemId} {row : DeviceRow}
    (h : aliveByHardwareId db hardwareId = some (id, row)) :
    db.devices.lookup id = some row ∧ row.hardwareId = hardwareId := by
  obtain ⟨entry, hentry, heq⟩ := Option.map_eq_some_iff.1 h
  obtain ⟨rfl, rfl⟩ := Prod.mk.injEq .. ▸ heq
  have hfound := List.find?_some hentry
  simp only [Bool.and_eq_true, beq_iff_eq] at hfound
  exact ⟨AList.mem_lookup_iff.2 (List.mem_of_find?_eq_some hentry), hfound.1⟩

theorem retireCandidate_wp {systemId : SystemId} {hardwareId : String} {now : ℤ} :
    wp (retireCandidate systemId hardwareId now)
      (fun _ db' _ => Replaced hardwareId db db') (fun _ _ _ => True) db n := by
  refine wp_bind (wp_query trivial ?_)
  rcases hfound : aliveByHardwareId db hardwareId with _ | ⟨candidate, holder⟩
  · exact wp_pure .refl
  · obtain ⟨hholder, hhw⟩ := aliveByHardwareId_lookup hfound
    by_cases hne : candidate ≠ systemId
    · dsimp only
      rw [if_pos hne]
      refine wp_bind (wp_imp (updateDevices_wp (isDevice_continues rfl
        fun _ => ⟨rfl, rfl, rfl, rfl⟩)) fun _ db' _ h => wp_pure ?_)
      obtain ⟨rfl, hkept⟩ := h
      refine ⟨hkept, fun id row row' hrow ha hrow' hr => ?_, rfl⟩
      -- a row that the update leaves alone is as live as before
      rw [Keyed.lookup_updateWhere, hrow] at hrow'
      obtain rfl := Option.some.inj hrow'
      by_cases hid : id = candidate
      · obtain rfl : row = holder := Option.some.inj (hrow.symm.trans (hid ▸ hholder))
        exact hhw
      · simp [isDevice, hid] at hr
        simp [DeviceRow.alive, hr] at ha
    · dsimp only
      rw [if_neg hne]
      exact wp_pure .refl

theorem moveToHardware_wp {systemId : SystemId} {hardwareId : String} :
    wp (moveToHardware systemId hardwareId)
      (fun _ db' _ => db'.series = db.series ∧ Kept db.devices db'.devices
        ∧ ∀ id row', db'.devices.lookup id = some row' → row'.state = .retired →
          db.devices.lookup id = some row') (fun _ _ _ => True) db n := by
  refine wp_imp (updateDevices_wp (isDevice_continues rfl fun _ => ⟨rfl, rfl, rfl, rfl⟩)) ?_
  rintro _ db' _ ⟨rfl, hkept⟩
  refine ⟨rfl, hkept, fun id row' hrow' hr => ?_⟩
  rw [Keyed.lookup_updateWhere] at hrow'
  obtain ⟨row, hrow, rfl⟩ := Option.map_eq_some_iff.1 hrow'
  split_ifs at hr ⊢ with hp
  · simp only [isDevice, Bool.and_eq_true, bne_iff_ne] at hp
    exact absurd hr hp.2
  · exact hrow

theorem setCalibrationReview_wp {systemId : SystemId} {flag : Bool} :
    wp (setCalibrationReview systemId flag)
      (fun _ db' _ => db'.devices = db.devices ∧ attachments db' = attachments db)
      (fun _ _ _ => True) db n := by
  refine wp_stmt trivial (fun _ db' hok => ?_) fun _ h => nomatch h
  obtain ⟨-, rfl⟩ := Prod.mk.injEq .. ▸ Except.ok.inj hok
  refine ⟨rfl, ?_⟩
  simp only [attachments, AutoTable.updateWhere, List.map_map]
  refine List.map_congr_left fun r _ => ?_
  simp only [Function.comp_apply]
  split_ifs <;> rfl

theorem aliveDevice_wp {systemId : SystemId} :
    wp (aliveDevice systemId) (fun _ db' _ => db' = db) (fun _ _ _ => True) db n :=
  wp_bind (wp_query trivial (wp_pure rfl))

theorem replaceHardware_wp {systemId : SystemId} {hardwareId : String} :
    wp (replaceHardware host systemId hardwareId) (fun _ db' _ => Replaced hardwareId db db')
      (fun _ _ _ => True) db n := by
  refine wp_bind (wp_bind (wp_query trivial (wp_pure ?_)))
  cases (db.devices.lookup systemId).filter DeviceRow.alive with
  | none => exact wp_fail trivial
  | some target =>
    by_cases hsame : target.hardwareId = hardwareId
    · dsimp only
      rw [if_pos hsame]
      exact wp_fail trivial
    · dsimp only
      rw [if_neg hsame]
      refine wp_bind (wp_draw (wp_bind (wp_imp retireCandidate_wp ?_)))
      intro retired db₁ _ h₁
      refine wp_bind (wp_imp moveToHardware_wp ?_)
      rintro _ db₂ _ ⟨hseries, hkept, hback⟩
      refine wp_bind (wp_imp setCalibrationReview_wp ?_)
      rintro _ db₃ _ ⟨hdevices, hattached⟩
      refine wp_bind (wp_imp recordEvent_wp ?_)
      rintro _ db₄ _ ⟨hdevices', hseries'⟩
      refine wp_pure ⟨?_, ?_, ?_⟩
      · rw [hdevices', hdevices]
        exact h₁.kept.trans hkept
      · -- what is retired at the end was so before the move
        rw [hdevices', hdevices]
        exact fun id row row' hrow ha hrow' hr => h₁.retires id row row' hrow ha
          (hback id row' hrow' hr) hr
      · have hstill : attachments db₂ = attachments db₁ := by rw [attachments, hseries, attachments]
        rw [attachments, hseries', ← attachments, hattached, hstill, h₁.attached]

end Ledger

namespace CustodyDb

variable {ρ α : Type} {host : Host} {generate : ℕ → SystemId} {parse : String → Option Json}
  {db : CustodyDb ρ} {n : ℕ}

theorem onLedger_wp {m : Tx LedgerDb LedgerError α} {Q : α → LedgerDb → ℕ → Prop}
    (h : wp m Q (fun _ _ _ => True) db.ledger n) :
    wp (onLedger m) (fun a db' n' => Q a db'.ledger n') (fun _ _ _ => True) db n :=
  wp_on (wp_mapError h)

theorem approveSighting_wp {hardwareId : String} {userLabel : Option String} {kind : DeviceKind} :
    wp (approveSighting host generate hardwareId userLabel kind)
      (fun _ db' _ => Kept db.ledger.devices db'.ledger.devices
        ∧ Ledger.Registered db.ledger.devices db'.ledger.devices) (fun _ _ _ => True) db n := by
  refine wp_bind (wp_query trivial ?_)
  by_cases hseen : (!decide (hardwareId ∈ db.staging.sightings)) = true
  · rw [if_pos hseen]
    exact wp_fail trivial
  · rw [if_neg hseen]
    refine wp_bind (wp_imp (onLedger_wp Ledger.insertDevice_wp) fun _ db' _ h => ?_)
    refine wp_bind (wp_exec trivial (wp_bind ?_))
    refine wp_imp (onLedger_wp Ledger.recordEvent_wp) fun _ db'' _ h' => wp_pure ?_
    rw [h'.1]
    exact h

def quarantine (within : ReadingRow → Bool) (r : ℕ × ReadingRow) : ℕ × ReadingRow :=
  if within r.2 then (r.1, { r.2 with quarantined := true }) else r

def seqsWithin (within : ReadingRow → Bool) (rows : List (ℕ × ReadingRow)) : List ℕ :=
  (rows.filter fun r => within r.2).map Prod.fst

theorem receivedWithin_nil (since upto : ℤ) (row : ReadingRow) :
    receivedWithin [] since upto row = false := by
  simp [receivedWithin]

theorem markReadingsQuarantined_wp (seriesIds : List ℕ) (since upto : ℤ) :
    wp (markReadingsQuarantined seriesIds since upto)
      (fun _ db' _ => db'.ledger = db.ledger ∧ db'.publications = db.publications
        ∧ db'.readings.rows = db.readings.rows.map (quarantine (receivedWithin seriesIds since upto)))
      (fun _ _ _ => True) db n := by
  unfold markReadingsQuarantined
  split_ifs with hempty
  · rw [List.isEmpty_iff.1 hempty]
    refine wp_pure ⟨rfl, rfl, ?_⟩
    have hid : quarantine (receivedWithin [] since upto) = id :=
      funext fun r => if_neg (by simp [receivedWithin_nil])
    rw [hid, List.map_id]
  · refine wp_stmt trivial (fun _ db' hok => ?_) fun _ h => nomatch h
    obtain ⟨-, rfl⟩ := Prod.mk.injEq .. ▸ Except.ok.inj hok
    exact ⟨rfl, rfl, rfl⟩

theorem pruneOutboxForQuarantinedRange_wp (seriesIds : List ℕ) (since upto : ℤ) :
    wp (pruneOutboxForQuarantinedRange seriesIds since upto)
      (fun _ db' _ => db'.ledger = db.ledger ∧ db'.readings = db.readings
        ∧ db'.publications.rows = db.publications.rows.filter fun p => !Retention.refersTo
          (seqsWithin (fun row => receivedWithin seriesIds since upto row && row.quarantined)
            db.readings.rows) p)
      (fun _ _ _ => True) db n := by
  unfold pruneOutboxForQuarantinedRange
  split_ifs with hempty
  · rw [List.isEmpty_iff.1 hempty]
    refine wp_pure ⟨rfl, rfl, ?_⟩
    simp [seqsWithin, receivedWithin_nil, Retention.refersTo]
  · refine wp_stmt trivial (fun _ db' hok => ?_) fun _ h => nomatch h
    obtain ⟨-, rfl⟩ := Prod.mk.injEq .. ▸ Except.ok.inj hok
    exact ⟨rfl, rfl, rfl⟩

theorem undoReplace_kept {args : ReplaceUndoArgs} {current : DeviceRow} {event : ReplaceEvent}
    {since upto : ℤ} (h : Kept devices db.ledger.devices) :
    wp (undoReplace host args current event since upto)
      (fun _ db' _ => Kept devices db'.ledger.devices) (fun _ _ _ => True) db n := by
  refine wp_bind (wp_imp (onLedger_wp Ledger.moveToHardware_wp) ?_)
  rintro _ db₁ _ ⟨-, hkept, -⟩
  refine wp_bind (wp_query trivial (wp_bind (wp_imp (markReadingsQuarantined_wp _ _ _) ?_)))
  rintro _ db₂ _ ⟨h₂, -⟩
  refine wp_bind (wp_imp (pruneOutboxForQuarantinedRange_wp _ _ _) fun _ db₃ _ h₃ => ?_)
  refine wp_bind (wp_imp (onLedger_wp (Ledger.recordEvent_kept ?_)) fun _ _ _ h' => wp_pure h')
  rw [h₃.1, h₂]
  exact h.trans hkept

theorem latestReplaceEvent_wp {systemId : SystemId} {hardwareId : String} :
    wp (latestReplaceEventForCurrentHardware parse systemId hardwareId)
      (fun _ db' _ => db' = db) (fun _ _ _ => True) db n := by
  refine wp_bind (wp_query trivial ?_)
  split
  · exact wp_pure rfl
  · exact wp_fail trivial
  · exact wp_fail trivial

theorem runReplaceUndo_kept {args : ReplaceUndoArgs} :
    wp (runReplaceUndo host parse args)
      (fun _ db' _ => Kept db.ledger.devices db'.ledger.devices) (fun _ _ _ => True) db n := by
  refine wp_bind (wp_query trivial ?_)
  split_ifs
  · exact wp_fail trivial
  -- until the first write the ledger is the one the call found
  refine wp_bind (wp_imp (onLedger_wp Ledger.aliveDevice_wp) fun row db₁ n₁ h₁ => ?_)
  have hkept : Kept db.ledger.devices db₁.ledger.devices := .of_eq (by rw [h₁])
  cases row with
  | none => exact wp_fail trivial
  | some current =>
    refine wp_bind (wp_imp latestReplaceEvent_wp ?_)
    rintro event _ n₂ rfl
    split_ifs
    · exact wp_fail trivial
    refine wp_bind (wp_draw (wp_bind (wp_ofExcept (fun since _ => ?_) fun _ _ => trivial)))
    refine wp_bind (wp_imp (onLedger_wp (Q := fun _ l _ => l = _) (wp_query trivial rfl)) ?_)
    intro found db₃ n₃ h₃
    have hkept₃ : Kept db.ledger.devices db₃.ledger.devices := h₃ ▸ hkept
    rcases found with _ | ⟨alive, _⟩
    · exact undoReplace_kept hkept₃
    · by_cases hother : alive ≠ args.systemId
      · dsimp only
        rw [if_pos hother]
        exact wp_fail trivial
      · dsimp only
        rw [if_neg hother]
        exact undoReplace_kept hkept₃

end CustodyDb

/-! ## Whole runs -/

namespace DeviceCall

open CustodyDb (onLedger onLedger_wp)

variable {ρ : Type} {host : Host} {generate : ℕ → SystemId} {parse : String → Option Json}
  {db : CustodyDb ρ} {n : ℕ}

theorem bump_wp :
    wp (perform.bump : Tx (CustodyDb ρ) CommandError Unit)
      (fun _ db' _ => db'.ledger.devices = db.ledger.devices ∧ db'.ledger.series = db.ledger.series)
      (fun _ _ _ => True) db n := by
  refine wp_bind (wp_imp (onLedger_wp (Q := fun _ l _ => l.devices = db.ledger.devices
    ∧ l.series = db.ledger.series) ?_) fun _ _ _ h => wp_pure h)
  exact wp_bind (wp_exec trivial (wp_query trivial ⟨rfl, rfl⟩))

theorem bumped_wp {α : Type} {m : Tx (CustodyDb ρ) CommandError α} {Q : LedgerDb → Prop}
    (hQ : ∀ l l' : LedgerDb, l'.devices = l.devices → l'.series = l.series → Q l → Q l')
    (h : wp m (fun _ db' _ => Q db'.ledger) (fun _ _ _ => True) db n) :
    wp (m >>= fun _ => perform.bump) (fun _ db' _ => Q db'.ledger) (fun _ _ _ => True) db n :=
  wp_bind (wp_imp h fun _ _ _ h' => wp_imp bump_wp fun _ _ _ hb => hQ _ _ hb.1 hb.2 h')

def registers : DeviceCall → Bool
  | insert _ => true
  | approveSighting _ _ _ => true
  | _ => false

theorem perform_kept (call : DeviceCall) :
    wp (call.perform host generate parse)
      (fun _ db' _ => Kept db.ledger.devices db'.ledger.devices) (fun _ _ _ => True) db n := by
  have hQ : ∀ l l' : LedgerDb, l'.devices = l.devices → l'.series = l.series →
      Kept db.ledger.devices l.devices → Kept db.ledger.devices l'.devices :=
    fun _ _ hdevices _ h => h.trans (.of_eq hdevices)
  cases call with
  | insert new =>
    exact bumped_wp hQ (wp_imp (onLedger_wp Ledger.insertDevice_wp) fun _ _ _ h => h.1)
  | approveSighting hardwareId userLabel kind =>
    exact bumped_wp hQ (wp_imp CustodyDb.approveSighting_wp fun _ _ _ h => h.1)
  | activate systemId => exact bumped_wp hQ (onLedger_wp Ledger.activateDevice_kept)
  | expireQuarantined ttlMs =>
    refine wp_bind (wp_imp (onLedger_wp Ledger.expireQuarantinedDevices_kept)
      fun expired _ _ h => ?_)
    split_ifs
    · exact wp_pure h
    · exact wp_imp bump_wp fun _ _ _ hb => hQ _ _ hb.1 hb.2 h
  | replaceHardware systemId newHardwareId =>
    exact bumped_wp hQ (wp_imp (onLedger_wp Ledger.replaceHardware_wp) fun _ _ _ h => h.kept)
  | replaceUndo args => exact bumped_wp hQ CustodyDb.runReplaceUndo_kept
  | retire systemId => exact bumped_wp hQ (onLedger_wp Ledger.retireDevice_kept)

theorem perform_registers {call : DeviceCall} (hcall : call.registers) :
    wp (call.perform host generate parse)
      (fun _ db' _ => Ledger.Registered db.ledger.devices db'.ledger.devices)
      (fun _ _ _ => True) db n := by
  have hQ : ∀ l l' : LedgerDb, l'.devices = l.devices → l'.series = l.series →
      Ledger.Registered db.ledger.devices l.devices →
      Ledger.Registered db.ledger.devices l'.devices :=
    fun _ _ hdevices _ h => hdevices ▸ h
  cases call with
  | insert new =>
    exact bumped_wp hQ (wp_imp (onLedger_wp Ledger.insertDevice_wp) fun _ _ _ h => h.2)
  | approveSighting hardwareId userLabel kind =>
    exact bumped_wp hQ (wp_imp CustodyDb.approveSighting_wp fun _ _ _ h => h.2)
  | _ => simp [registers] at hcall

theorem perform_replaces {systemId : SystemId} {hardwareId : String} :
    wp ((replaceHardware systemId hardwareId).perform host generate parse)
      (fun _ db' _ => Ledger.Replaced hardwareId db.ledger db'.ledger) (fun _ _ _ => True) db n := by
  refine bumped_wp (fun l l' hdevices hseries h => ?_) (onLedger_wp Ledger.replaceHardware_wp)
  obtain ⟨hkept, hretires, hattached⟩ := h
  refine ⟨hdevices ▸ hkept, hdevices ▸ hretires, ?_⟩
  rw [Ledger.attachments, hseries]
  exact hattached

end DeviceCall

namespace Inventory

variable {ρ : Type} {host : Host} {generate : ℕ → SystemId} {parse : String → Option Json}
  {s s' : Inventory ρ}

theorem owned_wp {call : DeviceCall} {ending : Ending} {db : CustodyDb ρ} {n : ℕ}
    {R : LedgerDb → Prop} (hnone : R db.ledger)
    (h : wp (call.perform host generate parse) (fun _ db' _ => R db'.ledger)
      (fun _ _ _ => True) db n) :
    wp (owned host generate parse call ending) (fun _ db' _ => R db'.ledger)
      (fun _ db' _ => R db'.ledger) db n := by
  refine wp_transaction hnone (wp_bind (wp_mono h (fun _ db' _ h' => wp_pure ?_)
    fun _ _ _ _ => hnone))
  cases ending with
  | drop => exact hnone
  | commit => exact ⟨h', hnone⟩
  | rollback => exact ⟨hnone, hnone⟩

theorem step_kept {e : Event ρ} (h : step host generate parse s e = some s') :
    Kept s.db.ledger.devices s'.db.ledger.devices := by
  cases e with
  | call call ending faults =>
    obtain rfl := Option.some.inj h
    exact (owned_wp (R := fun l => Kept s.db.ledger.devices l.devices) (.refl _)
      call.perform_kept).after faults
  | elsewhere change =>
    obtain rfl := Option.some.inj h
    exact .refl _

theorem run_kept {events : List (Event ρ)}
    (h : Machine.run (step host generate parse) s events = some s') :
    Kept s.db.ledger.devices s'.db.ledger.devices :=
  Machine.run_invariant (I := fun t => Kept s.db.ledger.devices t.db.ledger.devices)
    (fun _ _ _ hkept hstep => hkept.trans (step_kept hstep)) (.refl _) h

theorem owned_registers {call : DeviceCall} (hcall : call.registers) {c : Conn (CustodyDb ρ)}
    (hok : (owned host generate parse call .commit c).1 = .ok ()) :
    Ledger.Registered c.db.ledger.devices
      (owned host generate parse call .commit c).2.db.ledger.devices := by
  have hwp : wp (owned host generate parse call .commit)
      (fun _ db' _ => Ledger.Registered c.db.ledger.devices db'.ledger.devices)
      (fun _ _ _ => True) c.db c.draws :=
    wp_transaction trivial (wp_bind (wp_mono (DeviceCall.perform_registers hcall)
      (fun _ _ _ h => wp_pure ⟨h, trivial⟩) fun _ _ _ _ => trivial))
  have h := hwp c.faults
  rcases hr : owned host generate parse call .commit c with ⟨e | a, c'⟩ <;> rw [hr] at h hok
  · cases hok
  · exact h

theorem step_replaces {systemId : SystemId} {hardwareId : String} {ending : Ending}
    {faults : List Bool} (h : step host generate parse s
      (.call (.replaceHardware systemId hardwareId) ending faults) = some s') :
    Ledger.Replaced hardwareId s.db.ledger s'.db.ledger := by
  obtain rfl := Option.some.inj h
  have hwp : wp (owned host generate parse (.replaceHardware systemId hardwareId) ending)
      (fun _ db' _ => Ledger.Replaced hardwareId s.db.ledger db'.ledger)
      (fun _ db' _ => Ledger.Replaced hardwareId s.db.ledger db'.ledger) s.db s.draws :=
    owned_wp .refl DeviceCall.perform_replaces
  exact hwp.after faults

/-- Over every run: the live devices have different hardware, a device that was there stays under its
key and once retired stays as it is, a new one takes a key that none has had, and a replacement
retires nothing but the holder of the new hardware and moves no series. -/
theorem devices_keep_identity (authEpoch : String) (registry : ρ) {events more : List (Event ρ)}
    (hs : Machine.run (step host generate parse) (fresh authEpoch registry) events = some s)
    (hmore : Machine.run (step host generate parse) s more = some s') :
    OneAlive s'.db.ledger.devices ∧ Persist s.db.ledger.devices s'.db.ledger.devices
      ∧ (∀ call faults, DeviceCall.registers call →
          (owned host generate parse call .commit ⟨s'.db, faults, s'.draws⟩).1 = .ok () →
          Ledger.Registered s'.db.ledger.devices
            (owned host generate parse call .commit ⟨s'.db, faults, s'.draws⟩).2.db.ledger.devices)
      ∧ ∀ systemId hardwareId ending faults s'',
          step host generate parse s' (.call (.replaceHardware systemId hardwareId) ending faults)
            = some s'' →
          Ledger.RetiresOnly hardwareId s'.db.ledger.devices s''.db.ledger.devices
            ∧ Ledger.attachments s''.db.ledger = Ledger.attachments s'.db.ledger := by
  have hempty : (aliveHardware (fresh authEpoch registry).db.ledger.devices).Nodup :=
    List.nodup_nil
  refine ⟨oneAlive_of_nodup ((run_kept hmore).apart ((run_kept hs).apart hempty)),
    (run_kept hmore).persist, fun call faults hcall hok => owned_registers hcall hok, ?_⟩
  intro systemId hardwareId ending faults s'' hstep
  exact ⟨(step_replaces hstep).retires, (step_replaces hstep).attached⟩

open Ops.Confirmation (plainHost)

def sensorOn (hardwareId : String) : DeviceCall :=
  .insert ⟨hardwareId, none, none, .individual, .active⟩

def numbered (n : ℕ) : SystemId := ⟨BitVec.ofNat 128 n⟩

theorem sensor_takes_over :
    ∃ s s' : Inventory Unit,
      Machine.run (step plainHost numbered fun _ => none) (fresh "epoch" ())
        [.call (sensorOn "old") .commit [], .call (sensorOn "new") .commit []] = some s
      ∧ Machine.run (step plainHost numbered fun _ => none) s
        [.call (.replaceHardware (numbered 0) "new") .commit []] = some s'
      ∧ (s'.db.ledger.devices.entries.map fun r => (r.1, r.2.hardwareId, r.2.state, r.2.supersededBy))
        = [(numbered 3, "new", .retired, some (numbered 0)), (numbered 0, "new", .active, none)]
      ∧ OneAlive s'.db.ledger.devices ∧ Persist s.db.ledger.devices s'.db.ledger.devices := by
  have hboth : ((Machine.run (step plainHost numbered fun _ => none) (fresh "epoch" ())
      [.call (sensorOn "old") .commit [], .call (sensorOn "new") .commit []]).bind fun s =>
      (Machine.run (step plainHost numbered fun _ => none) s
        [.call (.replaceHardware (numbered 0) "new") .commit []]).map fun s' =>
        s'.db.ledger.devices.entries.map fun r => (r.1, r.2.hardwareId, r.2.state, r.2.supersededBy))
      = some [(numbered 3, "new", .retired, some (numbered 0)),
        (numbered 0, "new", .active, none)] := by decide +kernel
  obtain ⟨s, hs, hmore⟩ := Option.bind_eq_some_iff.1 hboth
  obtain ⟨s', hs', hdevices⟩ := Option.map_eq_some_iff.1 hmore
  obtain ⟨hone, hpersist, -⟩ := devices_keep_identity "epoch" () hs hs'
  exact ⟨s, s', hs, hs', hdevices, hone, hpersist⟩

end Inventory

end EdgeNode
