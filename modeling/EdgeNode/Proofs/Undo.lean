import EdgeNode.Proofs.Devices

/-!
# What an undone replacement leaves in the open

An undo puts the readings of the mistaken period into quarantine and takes them out of the
publication log. It finds them by the times they were received at, between the replacement and its
own. A clock that was set back in the meantime gave some of them times from before the replacement.
-/

namespace EdgeNode

open Tx

namespace CustodyDb

variable {ρ α : Type} {host : Host} {parse : String → Option Json} {db db' : CustodyDb ρ} {n : ℕ}

/-! ## What an undo writes -/

theorem onLedger_beside {m : Tx LedgerDb LedgerError α} {Q : α → LedgerDb → ℕ → Prop}
    (h : wp m Q (fun _ _ _ => True) db.ledger n) :
    wp (onLedger m) (fun a db' n' => Q a db'.ledger n' ∧ db'.readings = db.readings
      ∧ db'.publications = db.publications) (fun _ _ _ => True) db n :=
  wp_on (wp_mapError (wp_imp h fun _ _ _ h => ⟨h, rfl, rfl⟩))

def seriesOf (systemId : SystemId) (l : LedgerDb) : List ℕ :=
  (l.series.rows.filter fun r => r.2.systemId == systemId).map Prod.fst

/-- The readings of the device that were received in the range are in quarantine and out of the log. -/
structure Undone (systemId : SystemId) (since upto : ℤ) (db db' : CustodyDb ρ) : Prop where
  series : db'.ledger.series = db.ledger.series
  readings : db'.readings.rows = db.readings.rows.map
    (quarantine (receivedWithin (seriesOf systemId db.ledger) since upto))
  publications : db'.publications.rows = db.publications.rows.filter fun p => !Retention.refersTo
    (seqsWithin (receivedWithin (seriesOf systemId db.ledger) since upto) db.readings.rows) p

theorem seqsWithin_quarantined (seriesIds : List ℕ) (since upto : ℤ)
    (rows : List (ℕ × ReadingRow)) :
    seqsWithin (fun row => receivedWithin seriesIds since upto row && row.quarantined)
        (rows.map (quarantine (receivedWithin seriesIds since upto)))
      = seqsWithin (receivedWithin seriesIds since upto) rows := by
  induction rows with
  | nil => rfl
  | cons r rows ih =>
    simp only [seqsWithin] at ih
    by_cases hr : receivedWithin seriesIds since upto r.2 = true
    · have hr' : receivedWithin seriesIds since upto { r.2 with quarantined := true } = true := hr
      simp [seqsWithin, quarantine, hr, hr', ih]
    · simp [seqsWithin, quarantine, hr, ih]

theorem undoReplace_undone {args : ReplaceUndoArgs} {current : DeviceRow} {event : ReplaceEvent}
    {since upto : ℤ} :
    wp (undoReplace host args current event since upto)
      (fun _ db' _ => Undone args.systemId since upto db db') (fun _ _ _ => True) db n := by
  refine wp_bind (wp_imp (onLedger_beside Ledger.moveToHardware_wp) ?_)
  rintro _ db₁ _ ⟨⟨hseries₁, -⟩, hreadings₁, hpublications₁⟩
  refine wp_bind (wp_query trivial (wp_bind (wp_imp (markReadingsQuarantined_wp _ _ _) ?_)))
  rintro _ db₂ _ ⟨hledger₂, hpublications₂, hreadings₂⟩
  refine wp_bind (wp_imp (pruneOutboxForQuarantinedRange_wp _ _ _) ?_)
  rintro _ db₃ _ ⟨hledger₃, hreadings₃, hpublications₃⟩
  refine wp_bind (wp_imp (onLedger_beside Ledger.recordEvent_wp) fun _ db₄ _ h₄ => wp_pure ?_)
  obtain ⟨⟨-, hseries₄⟩, hreadings₄, hpublications₄⟩ := h₄
  have hids : (db₁.ledger.series.rows.filter fun r => r.2.systemId == args.systemId).map Prod.fst
      = seriesOf args.systemId db.ledger := by rw [hseries₁, seriesOf]
  rw [hids] at hreadings₂ hpublications₃
  refine ⟨?_, ?_, ?_⟩
  · rw [hseries₄, hledger₃, hledger₂, hseries₁]
  · rw [hreadings₄, hreadings₃, hreadings₂, hreadings₁]
  · rw [hpublications₄, hpublications₃, hpublications₂, hpublications₁, hreadings₂,
      seqsWithin_quarantined, hreadings₁]

def bringsHardware (parse : String → Option Json) (hardwareId : String) (event : EventRow) : Bool :=
  ((parse event.detail).bind fun value => value.get? "new_hw").bind Json.asStr? == some hardwareId

def lastReplacement (parse : String → Option Json) (systemId : SystemId) (db : CustodyDb ρ) :
    Option (ℕ × EventRow) := do
  let current ← (db.ledger.devices.lookup systemId).filter DeviceRow.alive
  (db.ledger.events.rows.filter fun r =>
    r.2.kind == "hardware_replaced" && r.2.systemId == some systemId).reverse.find?
      fun r => bringsHardware parse current.hardwareId r.2

theorem findReplaceEvent_ok {hardwareId : String} {event : ReplaceEvent} :
    ∀ {events : List (ℕ × EventRow)},
      findReplaceEvent parse hardwareId events = some (.ok event) →
        ∃ r, events.find? (fun r => bringsHardware parse hardwareId r.2) = some r
          ∧ r.2.atMs = event.atMs
  | [], h => nomatch h
  | (eventId, row) :: events, h => by
    rw [findReplaceEvent] at h
    rw [List.find?_cons]
    cases hparse : parse row.detail with
    | none =>
      rw [hparse] at h
      have hnot : bringsHardware parse hardwareId row = false := by simp [bringsHardware, hparse]
      rw [hnot]
      exact findReplaceEvent_ok h
    | some value =>
      rw [hparse] at h
      dsimp only at h
      have hbrings : bringsHardware parse hardwareId row
          = ((value.get? "new_hw").bind Json.asStr? == some hardwareId) := by
        simp [bringsHardware, hparse]
      rw [hbrings]
      split_ifs at h with hnew
      · rw [beq_iff_eq.2 hnew]
        split at h
        · exact nomatch h
        · obtain rfl := Except.ok.inj (Option.some.inj h)
          exact ⟨(eventId, row), rfl, rfl⟩
      · rw [beq_eq_false_iff_ne.2 hnew]
        exact findReplaceEvent_ok h

/-- An undo with its default start writes from the time of the replacement up to its own. -/
theorem runReplaceUndo_undone {args : ReplaceUndoArgs} (hsince : args.since = none) :
    wp (runReplaceUndo host parse args)
      (fun _ db' _ => ∃ r, lastReplacement parse args.systemId db = some r
        ∧ Undone args.systemId r.2.atMs (host.nowMs n) db db') (fun _ _ _ => True) db n := by
  refine wp_bind (wp_query trivial ?_)
  split_ifs
  · exact wp_fail trivial
  refine wp_bind (wp_on (wp_mapError (wp_bind (wp_query trivial (wp_pure ?_)))))
  cases hcurrent : (db.ledger.devices.lookup args.systemId).filter DeviceRow.alive with
  | none => exact wp_fail trivial
  | some current =>
    dsimp only
    refine wp_bind (wp_bind (wp_query trivial ?_))
    split
    · rename_i event hfound
      refine wp_pure ?_
      split_ifs
      · exact wp_fail trivial
      obtain ⟨r, hr, hat⟩ := findReplaceEvent_ok hfound
      have hlast : lastReplacement parse args.systemId db = some r := by
        rw [lastReplacement, hcurrent]
        exact hr
      refine wp_bind (wp_draw (wp_bind (wp_ofExcept (fun since hok => ?_) fun _ _ => trivial)))
      obtain rfl : since = r.2.atMs := by
        unfold checkSince at hok
        rw [hsince] at hok
        split_ifs at hok
        exact (Except.ok.inj hok).symm.trans hat.symm
      refine wp_bind (wp_on (wp_mapError (wp_query trivial ?_)))
      have hwrites : wp (undoReplace host args current event r.2.atMs (host.nowMs n))
          (fun _ db' _ => ∃ r, lastReplacement parse args.systemId db = some r
            ∧ Undone args.systemId r.2.atMs (host.nowMs n) db db') (fun _ _ _ => True) db (n + 1) :=
        wp_imp undoReplace_undone fun _ _ _ h => ⟨r, hlast, h⟩
      split
      · split_ifs
        · exact wp_fail trivial
        · exact hwrites
      · exact hwrites
    · exact wp_fail trivial
    · exact wp_fail trivial

/-! ## What is withheld -/

def Hidden (db : CustodyDb ρ) (r : ℕ × ReadingRow) : Prop :=
  r.2.quarantined = true ∧ ∀ p ∈ db.publications.rows, p.2.readingSeq ≠ some r.1

def Withheld (mark : ℕ) (systemId : SystemId) (db : CustodyDb ρ) : Prop :=
  ∀ r ∈ db.readings.rows, mark < r.1 → r.2.seriesId ∈ seriesOf systemId db.ledger → Hidden db r

instance (db : CustodyDb ρ) (r : ℕ × ReadingRow) : Decidable (Hidden db r) :=
  inferInstanceAs (Decidable (_ ∧ _))

instance (mark : ℕ) (systemId : SystemId) (db : CustodyDb ρ) :
    Decidable (Withheld mark systemId db) :=
  inferInstanceAs (Decidable (∀ r ∈ db.readings.rows, _ → _ → Hidden db r))

variable {systemId : SystemId} {since upto : ℤ}

theorem quarantine_fst (within : ReadingRow → Bool) (r : ℕ × ReadingRow) :
    (quarantine within r).1 = r.1 := by
  unfold quarantine
  split_ifs <;> rfl

theorem quarantine_seriesId (within : ReadingRow → Bool) (r : ℕ × ReadingRow) :
    (quarantine within r).2.seriesId = r.2.seriesId := by
  unfold quarantine
  split_ifs <;> rfl

/-- An undo hides the readings of its range and leaves the others as they were. -/
theorem Undone.hidden_iff (h : Undone systemId since upto db db') {r : ℕ × ReadingRow}
    (hr : r ∈ db.readings.rows) (hseries : r.2.seriesId ∈ seriesOf systemId db.ledger) :
    Hidden db' (quarantine (receivedWithin (seriesOf systemId db.ledger) since upto) r)
      ↔ (since ≤ r.2.receivedAtMs ∧ r.2.receivedAtMs ≤ upto) ∨ Hidden db r := by
  set within := receivedWithin (seriesOf systemId db.ledger) since upto with hwithin
  have hrange : within r.2 = true ↔ since ≤ r.2.receivedAtMs ∧ r.2.receivedAtMs ≤ upto := by
    simp [hwithin, receivedWithin, hseries]
  have hseqs : r.1 ∈ seqsWithin within db.readings.rows ↔ within r.2 = true := by
    simp only [seqsWithin, List.mem_map, List.mem_filter]
    constructor
    · rintro ⟨⟨seq, row⟩, ⟨hr', hin⟩, rfl⟩
      rwa [AutoTable.rows_unique hr (show (r.1, row) ∈ db.readings.rows from hr')]
    · exact fun hin => ⟨r, ⟨hr, hin⟩, rfl⟩
  unfold Hidden
  rw [h.publications, ← hwithin, ← hrange, quarantine_fst]
  by_cases hin : within r.2 = true
  · refine iff_of_true ⟨by simp [quarantine, hin], fun p hp heq => ?_⟩ (.inl hin)
    have hkept := (List.mem_filter.1 hp).2
    simp [Retention.refersTo, heq, hseqs.2 hin] at hkept
  · have hsame : quarantine within r = r := if_neg hin
    rw [hsame, or_iff_right hin]
    refine and_congr_right fun _ => ⟨fun hnone p hp heq => ?_, fun hnone p hp => ?_⟩
    · refine hnone p (List.mem_filter.2 ⟨hp, ?_⟩) heq
      simp [Retention.refersTo, heq, mt hseqs.1 hin]
    · exact hnone p (List.mem_filter.1 hp).1

theorem Undone.withheld_iff (h : Undone systemId since upto db db') (mark : ℕ) :
    Withheld mark systemId db'
      ↔ ∀ r ∈ db.readings.rows, mark < r.1 → r.2.seriesId ∈ seriesOf systemId db.ledger →
        (since ≤ r.2.receivedAtMs ∧ r.2.receivedAtMs ≤ upto) ∨ Hidden db r := by
  have hids : seriesOf systemId db'.ledger = seriesOf systemId db.ledger := by
    rw [seriesOf, h.series, seriesOf]
  unfold Withheld
  rw [h.readings, hids]
  constructor
  · intro hw r hr hmark hseries
    refine (h.hidden_iff hr hseries).1 (hw _ (List.mem_map_of_mem hr) ?_ ?_)
    · rwa [quarantine_fst]
    · rwa [quarantine_seriesId]
  · intro hw r' hr' hmark hseries
    obtain ⟨r, hr, rfl⟩ := List.mem_map.1 hr'
    rw [quarantine_fst] at hmark
    rw [quarantine_seriesId] at hseries
    exact (h.hidden_iff hr hseries).2 (hw r hr hmark hseries)

end CustodyDb

namespace Inventory

variable {ρ : Type} {host : Host} {generate : ℕ → SystemId} {parse : String → Option Json}

/-! ## Whole histories -/

def states (host : Host) (generate : ℕ → SystemId) (parse : String → Option Json) :
    Inventory ρ → List (Event ρ) → List (Inventory ρ)
  | s, [] => [s]
  | s, e :: events => s :: (step host generate parse s e).elim [] fun s' =>
      states host generate parse s' events

/-- The last key of the readings when an event was committed: in the first state that has it. -/
def readingsAtCommit (trace : List (Inventory ρ)) (eventId : ℕ) : ℕ :=
  ((trace.find? fun s => eventId ≤ s.db.ledger.events.lastId).map
    fun s => s.db.readings.lastId).getD 0

theorem perform_undone {args : ReplaceUndoArgs} (hsince : args.since = none) {db : CustodyDb ρ}
    {n : ℕ} :
    wp (DeviceCall.perform host generate parse (.replaceUndo args))
      (fun _ db' _ => ∃ r, CustodyDb.lastReplacement parse args.systemId db = some r
        ∧ CustodyDb.Undone args.systemId r.2.atMs (host.nowMs n) db db')
      (fun _ _ _ => True) db n := by
  refine wp_bind (wp_imp (CustodyDb.runReplaceUndo_undone hsince) ?_)
  rintro _ db₁ n₁ ⟨r, hlast, hundone⟩
  -- the generation is raised beside all that
  have hbump : wp (Ledger.bumpGeneration : Tx LedgerDb LedgerError ℤ)
      (fun _ l _ => l.series = db₁.ledger.series) (fun _ _ _ => True) db₁.ledger n₁ :=
    wp_bind (wp_exec trivial (wp_query trivial rfl))
  refine wp_bind (wp_imp (CustodyDb.onLedger_beside hbump) ?_)
  rintro _ db₂ _ ⟨hseries, hreadings, hpublications⟩
  refine wp_pure ⟨r, hlast, hseries.trans hundone.series, ?_, ?_⟩
  · rw [hreadings]
    exact hundone.readings
  · rw [hpublications]
    exact hundone.publications

theorem owned_undone {args : ReplaceUndoArgs} (hsince : args.since = none)
    {c : Conn (CustodyDb ρ)}
    (hok : (owned host generate parse (.replaceUndo args) .commit c).1 = .ok ()) :
    ∃ r, CustodyDb.lastReplacement parse args.systemId c.db = some r
      ∧ CustodyDb.Undone args.systemId r.2.atMs (host.nowMs c.draws) c.db
        (owned host generate parse (.replaceUndo args) .commit c).2.db := by
  have hwp : wp (owned host generate parse (.replaceUndo args) .commit)
      (fun _ db' _ => ∃ r, CustodyDb.lastReplacement parse args.systemId c.db = some r
        ∧ CustodyDb.Undone args.systemId r.2.atMs (host.nowMs c.draws) c.db db')
      (fun _ _ _ => True) c.db c.draws :=
    wp_transaction trivial (wp_bind (wp_mono (perform_undone hsince)
      (fun _ _ _ h => wp_pure ⟨h, trivial⟩) fun _ _ _ _ => trivial))
  have h := hwp c.faults
  rcases hr : owned host generate parse (.replaceUndo args) .commit c with ⟨e | a, c'⟩ <;>
    rw [hr] at h hok
  · cases hok
  · exact h

/-- After an undo with its default start, the readings that have come since the replacement was
committed are all hidden if and only if each of them was received between the time of the replacement
and the time of the undo, or was hidden before. -/
theorem replace_undo_hides_iff (authEpoch : String) (registry : ρ) (events : List (Event ρ))
    (args : ReplaceUndoArgs) (hsince : args.since = none) (faults : List Bool) :
    ∀ s ∈ Machine.run (step host generate parse) (fresh authEpoch registry) events,
    (owned host generate parse (.replaceUndo args) .commit ⟨s.db, faults, s.draws⟩).1 = .ok () →
    ∃ eventId event, CustodyDb.lastReplacement parse args.systemId s.db = some (eventId, event)
      ∧ (CustodyDb.Withheld
          (readingsAtCommit (states host generate parse (fresh authEpoch registry) events) eventId)
          args.systemId
          (owned host generate parse (.replaceUndo args) .commit ⟨s.db, faults, s.draws⟩).2.db
        ↔ ∀ r ∈ s.db.readings.rows,
          readingsAtCommit (states host generate parse (fresh authEpoch registry) events) eventId
              < r.1 →
          r.2.seriesId ∈ CustodyDb.seriesOf args.systemId s.db.ledger →
            (event.atMs ≤ r.2.receivedAtMs ∧ r.2.receivedAtMs ≤ host.nowMs s.draws)
              ∨ CustodyDb.Hidden s.db r) := by
  intro s _ hok
  obtain ⟨⟨eventId, event⟩, hlast, hundone⟩ := owned_undone hsince hok
  exact ⟨eventId, event, hlast, hundone.withheld_iff _⟩

/-! ## A clock that was set back -/

open Ops.Confirmation (plainHost)

def steadyHost : Host := { plainHost with nowMs := fun _ => 1000 }

def parseReplacement (text : String) : Option Json :=
  if text = Ledger.replaceDetail steadyHost "old" "new" 1000 then
    some (.object [("old_hw", .str "old"), ("new_hw", .str "new"), ("at", .int 1000)])
  else none

def readingAt (receivedAtMs : ℤ) (db : CustodyDb Unit) : CustodyDb Unit :=
  let series : SeriesRow :=
    { systemId := numbered 0, measurementKey := "temperature", channelIndex := channelNa,
      variant := defaultVariant, quarantined := false, quarantineReason := none, createdAt := 0 }
  let reading : NewReading :=
    { seriesId := 1, receivedAtMs := receivedAtMs, deviceTimeMs := none, timeSource := .edgeNode,
      values := [], rssi := none, batteryPct := none, quarantined := false }
  { db with toNodeDb := { db.toNodeDb with
      ledger := { db.ledger with series := (db.ledger.series.insert series).getD db.ledger.series }
      readings := (db.readings.insert reading.row).getD db.readings
      publications := (db.publications.insert ⟨"epoch", .measurement, some 1, receivedAtMs⟩).getD
        db.publications } }

def mistaken (receivedAtMs : ℤ) : List (Event Unit) :=
  [.call (sensorOn "old") .commit [], .call (.replaceHardware (numbered 0) "new") .commit [],
    .elsewhere (readingAt receivedAtMs)]

def takenBack : ReplaceUndoArgs where
  systemId := numbered 0
  oldHardwareId := "old"
  since := none
  abandonCustody := false

/-- What becomes of the reading: which event is undone and how, and whether all is withheld. -/
def undoOutcome (receivedAtMs : ℤ) (s : Inventory Unit) : Option ℕ × Bool × Bool :=
  let out := owned steadyHost numbered parseReplacement (.replaceUndo takenBack) .commit
    ⟨s.db, [], s.draws⟩
  ((CustodyDb.lastReplacement parseReplacement (numbered 0) s.db).map Prod.fst, out.1.isOk,
    decide (CustodyDb.Withheld (readingsAtCommit (states steadyHost numbered parseReplacement
      (fresh "epoch" ()) (mistaken receivedAtMs)) 2) (numbered 0) out.2.db))

/-- The clock of the receiver was set back by a tenth of a second after the replacement. The undo
succeeds, and the reading that came in between is not withheld. -/
theorem earlier_reading_stays_open :
    (Machine.run (step steadyHost numbered parseReplacement) (fresh "epoch" ())
      (mistaken 900)).map (undoOutcome 900) = some (some 2, true, false) := by
  decide +kernel

def undoStart (s : Inventory Unit) : Bool × Option (ℕ × ℤ) × List ℤ :=
  ((owned steadyHost numbered parseReplacement (.replaceUndo takenBack) .commit
      ⟨s.db, [], s.draws⟩).1.isOk,
    (CustodyDb.lastReplacement parseReplacement (numbered 0) s.db).map fun r => (r.1, r.2.atMs),
    s.db.readings.rows.map fun r => r.2.receivedAtMs)

theorem later_reading_withheld :
    ∃ s ∈ Machine.run (step steadyHost numbered parseReplacement) (fresh "epoch" ()) (mistaken 1000),
      CustodyDb.Withheld (readingsAtCommit (states steadyHost numbered parseReplacement
          (fresh "epoch" ()) (mistaken 1000)) 2) (numbered 0)
        (owned steadyHost numbered parseReplacement (.replaceUndo takenBack) .commit
          ⟨s.db, [], s.draws⟩).2.db := by
  have hstart : (Machine.run (step steadyHost numbered parseReplacement) (fresh "epoch" ())
      (mistaken 1000)).map undoStart = some (true, some (2, 1000), [1000]) := by decide +kernel
  obtain ⟨s, hs, hundo⟩ := Option.map_eq_some_iff.1 hstart
  simp only [undoStart, Prod.mk.injEq] at hundo
  obtain ⟨hisOk, hevent, hreceived⟩ := hundo
  have hok : (owned steadyHost numbered parseReplacement (.replaceUndo takenBack) .commit
      ⟨s.db, [], s.draws⟩).1 = .ok () := by
    rcases hr : (owned steadyHost numbered parseReplacement (.replaceUndo takenBack) .commit
      ⟨s.db, [], s.draws⟩).1 with e | u
    · rw [hr] at hisOk
      exact nomatch hisOk
    · rfl
  obtain ⟨eventId, event, hlast, hiff⟩ :=
    replace_undo_hides_iff "epoch" () (mistaken 1000) takenBack rfl [] s hs hok
  rw [show takenBack.systemId = numbered 0 from rfl] at hlast hiff
  rw [hlast] at hevent
  obtain ⟨rfl, hat⟩ : eventId = 2 ∧ event.atMs = 1000 := by simpa using hevent
  refine ⟨s, hs, hiff.2 fun r hr _ _ => .inl ?_⟩
  have hmem : r.2.receivedAtMs ∈ [(1000 : ℤ)] := hreceived ▸ List.mem_map_of_mem hr
  rw [List.mem_singleton.1 hmem, hat]
  exact ⟨le_rfl, le_rfl⟩

end Inventory

end EdgeNode
