import EdgeNode.Ops.RegistryRun
import EdgeNode.Proofs.Dispatch
import EdgeNode.Proofs.Stored

/-!
# The series of a site over whole runs

Submissions observe keys and add series; every other call leaves the key columns of the series alone
(`Advances`), so a reading stays in a series that its declaration suits, whatever is defined after it.
-/

namespace EdgeNode

open Tx

namespace Registry

variable {host : Host} {l l' l'' : LedgerDb} {g : RegistryDb} {key : String} {n : ℕ}
  {db db' db'' : LedgerDb × RegistryDb}

theorem SameColumns.trans (h : SameColumns l l') (h' : SameColumns l' l'') : SameColumns l l'' := by
  obtain ⟨f, hrows, hf⟩ := h
  obtain ⟨f', hrows', hf'⟩ := h'
  refine ⟨fun r => f' (r.1, f r), ?_, fun r => (hf' (r.1, f r)).trans (hf r)⟩
  rw [hrows', hrows, List.map_map]
  rfl

theorem Marked.sameColumns (h : Marked l l') : SameColumns l l' := by
  obtain ⟨f, hrows, hf⟩ := h.rows
  exact ⟨f, hrows, fun r => (hf r).1⟩

/-- What a call does that stores no readings: keys may get definitions, and the series and devices
are those there were. -/
structure Advances (db db' : LedgerDb × RegistryDb) : Prop where
  moves : Moves db db'
  columns : SameColumns db.1 db'.1
  devices : db'.1.devices = db.1.devices
  generation : db.1.generation.getD 0 ≤ db'.1.generation.getD 0

theorem Advances.refl (db : LedgerDb × RegistryDb) : Advances db db :=
  ⟨.refl, .of_eq rfl, rfl, le_rfl⟩

theorem Advances.trans (h : Advances db db') (h' : Advances db' db'') : Advances db db'' :=
  ⟨h.moves.trans h'.moves, h.columns.trans h'.columns, h'.devices.trans h.devices,
    h.generation.trans h'.generation⟩

theorem Advances.beside (hcolumns : SameColumns l l') (hdevices : l'.devices = l.devices)
    (hgeneration : l.generation.getD 0 ≤ l'.generation.getD 0) : Advances (l, g) (l', g) :=
  ⟨.single (.beside hcolumns), hcolumns, hdevices, hgeneration⟩

theorem Advances.extends {g' : RegistryDb} (h : g.Extends g') : Advances (l, g) (l, g') :=
  ⟨.single (.extend h), .of_eq rfl, rfl, le_rfl⟩

theorem Marked.advances (h : Marked l l') : Advances (l, g) (l', g) :=
  .beside h.sameColumns (by rw [h.beside]) (by rw [h.beside])

theorem Enabled.advances (h : Enabled key db db') : Advances db db' := by
  obtain ⟨l', g'⟩ := db'
  have hledger : Advances db (l', db.2) := (Marked.of_noted h.ledger).advances
  rcases h.registry with hsame | ⟨hnew, hvalid, row, rfl, hrow⟩
  · obtain rfl : g' = db.2 := hsame
    exact hledger
  · obtain rfl : g' = { db.2 with entries := db.2.entries ++ [row] } := hrow
    exact hledger.trans (.extends (.entry row hnew hvalid))

theorem Linked.advances (h : Linked key db db') : Advances db db' := by
  obtain ⟨l', g'⟩ := db'
  have hledger : Advances db (l', db.2) := h.ledger.advances
  rcases h.registry with hsame | ⟨hnew, row, rfl, htarget, hrow⟩
  · obtain rfl : g' = db.2 := hsame
    exact hledger
  · obtain rfl : g' = { db.2 with aliases := db.2.aliases ++ [row] } := hrow
    exact hledger.trans (.extends (.aliased row hnew htarget))

theorem Advances.usable (h : Advances db db') {cache : ResolutionCache}
    (hu : Collector.Usable db.1 cache) : Collector.Usable db'.1 cache := by
  have hgeneration := h.generation
  rcases hu.past with hle | ⟨hdevices, hseries⟩
  · refine ⟨fun hsame => ?_, .inl (hle.trans hgeneration)⟩
    exact h.columns.fits h.devices (hu.fits (by omega))
  · exact .of_empty _ hdevices hseries

/-! ## The operation and the tool -/

theorem defineResolution_wp (spec : Ops.ResolutionSpec) :
    wp (Ops.defineResolution host key spec)
      (fun _ db' _ => ∃ db₁, Linked key db₁ db' ∧ Settled db'.1 key
        ∧ match spec with
          | .aliasTo _ => db₁ = db
          | .custom spec => Enabled spec.measurementKey db db₁)
      (fun _ db' _ => Advances db db') db n := by
  cases spec with
  | aliasTo target =>
    refine wp_bind (wp_mono defineAlias_wp ?_ fun _ _ _ h => h.advances)
    exact fun _ db' _ h => wp_pure ⟨db, h.1, h.2, rfl⟩
  | custom spec =>
    refine wp_bind (wp_mono defineCustomEntry_wp ?_ fun _ _ _ h => h.advances)
    rintro entry db₁ n₁ ⟨henabled, -, -⟩
    refine wp_bind (wp_mono defineAlias_wp ?_ fun _ _ _ h => henabled.advances.trans h.advances)
    exact fun _ db' _ h => wp_pure ⟨db₁, h.1, h.2, henabled⟩

theorem defineResolution_advances (spec : Ops.ResolutionSpec) :
    wp (Ops.defineResolution host key spec) (fun _ db' _ => Advances db db')
      (fun _ db' _ => Advances db db') db n := by
  refine wp_imp (defineResolution_wp spec) ?_
  rintro _ db' _ ⟨db₁, hlinked, -, hfirst⟩
  cases spec with
  | aliasTo _ => exact hfirst ▸ hlinked.advances
  | custom _ => exact hfirst.advances.trans hlinked.advances

end Registry

namespace Collector

def NodeAdvances (db db' : NodeDb RegistryDb) : Prop := Registry.Advances (tables db) (tables db')

theorem NodeAdvances.bumped (db : NodeDb RegistryDb) : NodeAdvances db (Ops.bumped db) := by
  refine .beside (.of_eq rfl) rfl ?_
  change _ ≤ db.ledger.generation.elim 1 (· + 1)
  cases db.ledger.generation with
  | none => simp
  | some generation => simp

end Collector

namespace Ops

open Collector (NodeAdvances tables)

theorem onRegistry_wp {α : Type} {m : Tx (LedgerDb × RegistryDb) RegistryError α}
    {w : Work RegistryDb} {n : ℕ} {Q E : LedgerDb × RegistryDb → Prop}
    (h : wp m (fun _ p _ => Q p) (fun _ p _ => E p) (tables w.db) n) :
    wp (onRegistry m) (fun _ w' _ => Q (tables w'.db)) (fun _ w' _ => E (tables w'.db)) w n := by
  unfold onRegistry onNode
  exact wp_on (wp_on (wp_mapError h))

theorem runOperation_resolve {host : Host} {context : OpContext} {w : Work RegistryDb} {n : ℕ}
    {Q : DispatchResult → Work RegistryDb → ℕ → Prop} {E : OpError → Work RegistryDb → ℕ → Prop}
    (hrefused : ∀ e, E e w n)
    (h : ∀ key spec, resolution context.params = .ok spec →
      wp (onRegistry (defineResolution host key spec)) (fun value => Q (.pub value)) E w n) :
    wp (runOperation (resolveUnknownKeyDescriptor host) context) Q E w n := by
  refine wp_bind (wp_bind (wp_ofExcept (fun key _ => ?_) fun _ _ => hrefused _))
  refine wp_bind (wp_ofExcept (fun spec hspec => ?_) fun _ _ => hrefused _)
  exact wp_imp (h key spec hspec) fun _ _ _ hQ => wp_pure hQ

theorem resolveUnknownKey_keeps (host : Host) :
    Keeps NodeAdvances (pure ()) (resolveUnknownKeyDescriptor host) where
  refl db := .refl _
  trans h h' := h.trans h'
  clock h := by
    rcases h with rfl | ⟨source, now, -, rfl⟩
    · exact .refl _
    · exact .refl _
  bumped db := .bumped db
  events db events := .beside (.of_eq rfl) rfl le_rfl
  custody db n := wp_pure (.refl _)
  dryRun context w n := wp_ofExcept (fun _ _ => .refl _) fun _ _ => .refl _
  run context w n := by
    refine runOperation_resolve (fun _ => .refl _) fun key spec _ => ?_
    exact onRegistry_wp (Q := Registry.Advances (tables w.db))
      (Registry.defineResolution_advances spec)

end Ops

namespace Tool

open Collector (NodeAdvances tables)

variable {host : Host} {db : NodeDb RegistryDb} {n : ℕ} {α : Type}

theorem onRegistry_wp {m : Tx (LedgerDb × RegistryDb) RegistryError α}
    {Q E : LedgerDb × RegistryDb → Prop}
    (h : wp m (fun _ p _ => Q p) (fun _ p _ => E p) (tables db) n) :
    wp (onRegistry m) (fun _ db' _ => Q (tables db')) (fun _ db' _ => E (tables db')) db n :=
  wp_on (wp_mapError h)

theorem mutate_wp {m : Tx (NodeDb RegistryDb) ToolError α} {Q : NodeDb RegistryDb → Prop}
    (h : wp m (fun _ db' _ => Q db') (fun _ _ _ => True) db n) :
    wp (mutate m) (fun _ db' _ => ∃ db₁, Q db₁ ∧ db' = Ops.bumped db₁) (fun _ db' _ => db' = db)
      db n := by
  refine wp_transaction rfl (wp_bind (wp_mono h ?_ fun _ _ _ _ => rfl))
  intro value db₁ n₁ hQ
  have hbump : wp (onRegistry (Registry.onLedger Ledger.bumpGeneration))
      (fun _ db' _ => db' = Ops.bumped db₁) (fun _ _ _ => True) db₁ n₁ :=
    wp_on (wp_mapError (wp_on (wp_mapError
      (wp_bind (wp_exec trivial (wp_query trivial rfl))))))
  refine wp_bind (wp_mono hbump ?_ fun _ _ _ _ => rfl)
  exact fun _ _ _ hdb => wp_pure ⟨⟨db₁, hQ, hdb⟩, rfl⟩

theorem runRegistryEnable_wp (key : String) :
    wp (runRegistryEnable host key)
      (fun _ db' _ => ∃ db₁, (Registry.Enabled key (tables db) (tables db₁)
        ∧ (standardCatalog.find key).isSome = true) ∧ db' = Ops.bumped db₁)
      (fun _ db' _ => db' = db) db n := by
  unfold runRegistryEnable
  cases hentry : standardCatalog.find key with
  | none => exact wp_fail rfl
  | some entry =>
    obtain ⟨rfl, hvalid⟩ := standardCatalog_find hentry
    refine mutate_wp (onRegistry_wp (E := fun _ => True) (Q := fun p =>
      Registry.Enabled entry.key (tables db) p ∧ (some entry).isSome = true) ?_)
    exact wp_mono (Registry.enableEntry_wp hvalid) (fun _ _ _ h => ⟨h.1, rfl⟩) fun _ _ _ _ => trivial

theorem runRegistryAlias_wp (aliasName targetKey : String) (archive releaseAbandonPast : Bool) :
    wp (runRegistryAlias host aliasName targetKey archive releaseAbandonPast)
      (fun _ db' _ => ∃ db₁, (Registry.Linked aliasName (tables db) (tables db₁)
        ∧ Registry.Settled db₁.ledger aliasName) ∧ db' = Ops.bumped db₁)
      (fun _ db' _ => db' = db) db n := by
  refine mutate_wp (wp_bind (wp_on (wp_mapError (wp_on (wp_mapError (wp_query trivial ?_))))))
  have halias : wp (onRegistry (Registry.defineAlias host aliasName targetKey .locationMapping))
      (fun _ db' _ => Registry.Linked aliasName (tables db) (tables db')
        ∧ Registry.Settled db'.ledger aliasName) (fun _ _ _ => True) db n :=
    onRegistry_wp (E := fun _ => True) (Q := fun p =>
      Registry.Linked aliasName (tables db) p ∧ Registry.Settled p.1 aliasName)
      (wp_mono Registry.defineAlias_wp (fun _ _ _ h => h) fun _ _ _ _ => trivial)
  have hrest : ∀ hasArchive : Bool, wp (if hasArchive && !releaseAbandonPast
        then Tx.fail .wouldAbandonPast
      else do
        onRegistry (Registry.defineAlias host aliasName targetKey .locationMapping)
        if hasArchive then
          onRegistry (Registry.onLedger (Ledger.recordEvent host "quarantine_release_abandon_past" none
            (abandonDetail host aliasName targetKey)))
        else pure () : Tx (NodeDb RegistryDb) ToolError Unit)
      (fun _ db' _ => Registry.Linked aliasName (tables db) (tables db')
        ∧ Registry.Settled db'.ledger aliasName) (fun _ _ _ => True) db n := by
    intro hasArchive
    by_cases hrefused : (hasArchive && !releaseAbandonPast) = true
    · rw [if_pos hrefused]
      exact wp_fail trivial
    rw [if_neg hrefused]
    refine wp_bind (wp_imp halias ?_)
    rintro _ db₁ n₁ ⟨hlinked, hsettled⟩
    cases hasArchive with
    | false => exact wp_pure ⟨hlinked, hsettled⟩
    | true =>
      refine onRegistry_wp (E := fun _ => True) (Q := fun p =>
        Registry.Linked aliasName (tables db) p ∧ Registry.Settled p.1 aliasName)
        (wp_mono (Registry.recordEvent_noted _ _ _) ?_ fun _ _ _ _ => trivial)
      rintro _ ⟨l₂, g₂⟩ n₂ ⟨⟨events, rfl⟩, rfl⟩
      exact ⟨⟨hlinked.ledger.trans (.of_noted ⟨events, rfl⟩), hlinked.registry⟩, hsettled⟩
  split_ifs
  · exact wp_bind (wp_query trivial (hrest _))
  · exact wp_bind (wp_pure (hrest _))

end Tool

/-! ## Runs -/

namespace Site

open Collector (tables NodeAdvances Usable)
open Registry (Placed Regular)

variable {c : Collector.Components RegistryDb} {clock : Clock} {s s' : Site}

def storedBy (request : IngestRequest) (statuses : List ItemStatus)
    (before after : NodeDb RegistryDb) : List StoredItem :=
  let readings := itemsWhere ItemStatus.isReading request.envelope.items statuses
  let rows := after.readings.rows.drop before.readings.rows.length
  (readings.zip rows).filterMap fun (i, row) =>
    (Collector.subjectOf request.principal after.ledger i.1).map fun systemId =>
      Collector.storedItem systemId i.1 row.2.seriesId

def stored (c : Collector.Components RegistryDb) (s : Site) : Event → List StoredItem
  | .submit o request =>
    match Collector.submit c.withRegistry s.collector o request with
    | (.ok ⟨_, .accepted statuses⟩, after) => storedBy request statuses s.collector.db after.db
    | _ => []
  | _ => []

def log (c : Collector.Components RegistryDb) (clock : Clock) : Site → List Event → List StoredItem
  | _, [] => []
  | s, e :: es => s.stored c e ++ ((s.step c clock e).elim [] fun s' => log c clock s' es)

structure Sound (s : Site) : Prop where
  registry : s.collector.db.registry.WellFormed
  regular : Regular s.collector.db.ledger
  usable : Usable s.collector.db.ledger s.collector.cache

def Holds (s : Site) (items : List StoredItem) : Prop :=
  ∀ i ∈ items, Placed s.collector.db.ledger s.collector.db.registry i

theorem Holds.nil : s.Holds [] := fun _ h => absurd h List.not_mem_nil

theorem Sound.moves (h : s.Sound)
    (hmoves : Registry.Moves (tables s.collector.db) (tables s'.collector.db))
    (husable : Usable s'.collector.db.ledger s'.collector.cache) : s'.Sound :=
  ⟨hmoves.wellFormed h.registry, hmoves.regular h.regular, husable⟩

theorem Holds.moves {items : List StoredItem} (h : s.Holds items)
    (hmoves : Registry.Moves (tables s.collector.db) (tables s'.collector.db)) : s'.Holds items :=
  fun i hi => hmoves.placed (h i hi)

theorem submit_usable (hu : Usable s.collector.db.ledger s.collector.cache)
    (o : Collector.Circumstances) (request : IngestRequest) :
    Usable (Collector.submit c.withRegistry s.collector o request).2.db.ledger
      (Collector.submit c.withRegistry s.collector o request).2.cache := by
  obtain ⟨_, -, -, halike⟩ := Collector.accept_alike (c := c) (s := s.collector)
    ⟨⟨rfl, rfl, rfl⟩, rfl, hu⟩ o request true
  exact halike.usable

theorem storedBy_placed {request : IngestRequest} {statuses : List ItemStatus}
    {before after : NodeDb RegistryDb} (h : Collector.ItemsStored request.principal
      request.envelope.items statuses before after) :
    ∀ i ∈ storedBy request statuses before after, Placed after.ledger after.registry i := by
  obtain ⟨rows, hrows, hplaced⟩ := h.readings
  unfold storedBy
  rw [hrows, List.drop_left]
  intro i hi
  obtain ⟨⟨item, row⟩, hmem, hi⟩ := List.mem_filterMap.1 hi
  obtain ⟨systemId, hsubject, hsuits⟩ := (List.forall₂_iff_zip.1 hplaced).2 hmem
  simp only [hsubject, Option.map_some, Option.some.injEq] at hi
  exact hi ▸ hsuits

theorem submit_moves (h : s.Sound) (o : Collector.Circumstances) (request : IngestRequest) :
    Registry.Moves (tables s.collector.db)
        (tables (Collector.submit c.withRegistry s.collector o request).2.db)
      ∧ ∀ i ∈ s.stored c (.submit o request),
        Placed (Collector.submit c.withRegistry s.collector o request).2.db.ledger
          (Collector.submit c.withRegistry s.collector o request).2.db.registry i := by
  have hstored := Collector.submit_stored (c := c) s.collector o request h.registry h.usable
  simp only [stored]
  rcases hout : Collector.submit c.withRegistry s.collector o request with ⟨result, after⟩
  rw [hout] at hstored
  rcases hstored with ⟨⟨id, status⟩, statuses, hok, hstatus, hstored⟩ | ⟨hother, hdb⟩
  · dsimp only at hok hstatus
    subst hok hstatus
    exact ⟨hstored.observations.moves, storedBy_placed hstored⟩
  · dsimp only at hother hdb
    refine ⟨by rw [hdb], ?_⟩
    split
    · rename_i heq
      obtain ⟨rfl, rfl⟩ := Prod.mk.inj heq
      exact absurd rfl (hother _ _ rfl)
    · simp

theorem called_after {α : Type} {m : Tx (NodeDb RegistryDb) ToolError α} {faults : List Bool}
    {P : NodeDb RegistryDb → Prop}
    (h : ∀ n, wp m (fun _ db' _ => P db') (fun _ db' _ => P db') s.collector.db n) :
    P (s.called m faults).collector.db :=
  (h s.collector.draws).after faults

theorem dispatched_after {request : DispatchRequest} {savepoint : Ops.SavepointFaults}
    {faults : List Bool} {P : NodeDb RegistryDb → Prop}
    (h : ∀ n, wp (Ops.dispatchWithSecretDir clock c.host savepoint (pure ())
        [Ops.resolveUnknownKeyDescriptor c.host] request none)
      (fun _ j' _ => P j'.db) (fun _ j' _ => P j'.db)
      { db := s.collector.db, trust := s.trust } n) :
    P (s.dispatched c clock request savepoint faults).collector.db :=
  (h s.collector.draws).after (P := fun j : Ops.Journal RegistryDb => P j.db) faults

theorem dispatched_advances (request : DispatchRequest) (savepoint : Ops.SavepointFaults)
    (faults : List Bool) :
    NodeAdvances s.collector.db (s.dispatched c clock request savepoint faults).collector.db := by
  refine dispatched_after fun n => wp_mono (Ops.dispatchWithSecretDir_ran (fun _ => .refl _) ?_
    savepoint) (fun _ _ _ h => h.kept) fun _ _ _ h => h.kept
  simpa using Ops.resolveUnknownKey_keeps c.host

theorem sameColumns_reviewed (series : AutoTable SeriesRow) (review : Option (SystemId × Bool))
    {l l' : LedgerDb} (hl : l.series = series) (hl' : l'.series = reviewed series review) :
    Registry.SameColumns l l' := by
  cases review with
  | none => exact .of_eq (hl'.trans hl.symm)
  | some review =>
    obtain ⟨systemId, flag⟩ := review
    refine ⟨fun r => if r.2.systemId == systemId then { r.2 with calibrationReview := flag } else r.2,
      ?_, fun r => ?_⟩
    · rw [hl', hl]
      refine List.map_congr_left fun r _ => ?_
      dsimp only
      split_ifs <;> rfl
    · dsimp only
      split_ifs <;> rfl

theorem sound_advances (h : s.Sound) (hadvances : NodeAdvances s.collector.db s'.collector.db)
    (hcache : s'.collector.cache = s.collector.cache) : s'.Sound :=
  h.moves hadvances.moves (hcache ▸ hadvances.usable h.usable)

theorem step_sound (e : Event) (hstep : s.step c clock e = some s') (h : s.Sound)
    {items : List StoredItem} (hitems : s.Holds items) :
    s'.Sound ∧ s'.Holds (items ++ s.stored c e) := by
  have hother : ∀ {t : Site}, NodeAdvances s.collector.db t.collector.db →
      t.collector.cache = s.collector.cache → t.Sound ∧ t.Holds (items ++ []) := by
    intro t hadvances hcache
    rw [List.append_nil]
    exact ⟨sound_advances h hadvances hcache, hitems.moves hadvances.moves⟩
  cases e with
  | submit o request =>
    obtain rfl := Option.some.inj hstep
    obtain ⟨hmoves, hplaced⟩ := submit_moves (c := c) h o request
    refine ⟨h.moves hmoves (submit_usable h.usable o request), fun i hi => ?_⟩
    rcases List.mem_append.1 hi with hi | hi
    · exact hmoves.placed (hitems i hi)
    · exact hplaced i hi
  | dispatch request savepoint faults =>
    obtain rfl := Option.some.inj hstep
    exact hother (dispatched_advances request savepoint faults) rfl
  | enable key faults =>
    obtain rfl := Option.some.inj hstep
    refine hother (called_after fun n => wp_mono (Tool.runRegistryEnable_wp key) ?_ ?_) rfl
    · rintro _ _ _ ⟨db₁, ⟨henabled, -⟩, rfl⟩
      exact henabled.advances.trans (NodeAdvances.bumped db₁)
    · rintro _ _ _ rfl
      exact .refl _
  | defineAlias aliasName targetKey archive releaseAbandonPast faults =>
    obtain rfl := Option.some.inj hstep
    refine hother (called_after fun n => wp_mono (Tool.runRegistryAlias_wp aliasName targetKey
      archive releaseAbandonPast) ?_ ?_) rfl
    · rintro _ _ _ ⟨db₁, ⟨hlinked, -⟩, rfl⟩
      exact hlinked.advances.trans (NodeAdvances.bumped db₁)
    · rintro _ _ _ rfl
      exact .refl _
  | mutate change review =>
    obtain rfl := Option.some.inj hstep
    have hmoves : Registry.Moves (tables s.collector.db)
        (tables (Collector.mutated (besideRegistry change review) s.collector.db)) :=
      .single (.beside (sameColumns_reviewed _ review rfl rfl))
    rw [show s.stored c (.mutate change review) = [] from rfl, List.append_nil]
    exact ⟨h.moves hmoves (h.usable.mutated _), hitems.moves hmoves⟩

theorem run_sound : ∀ {events : List Event} {s s' : Site} {items : List StoredItem}, s.Sound →
    s.Holds items → Machine.run (step c clock) s events = some s' →
    s'.Sound ∧ s'.Holds (items ++ s.log c clock events)
  | [], _, _, _, h, hitems, hrun => by
    obtain rfl := Option.some.inj hrun
    rw [log, List.append_nil]
    exact ⟨h, hitems⟩
  | e :: es, s, s', items, h, hitems, hrun => by
    obtain ⟨t, hstep, hrun⟩ := Machine.run_cons.1 hrun
    obtain ⟨ht, htitems⟩ := step_sound e hstep h hitems
    have := run_sound ht htitems hrun
    rw [log, hstep]
    simpa only [Option.elim_some, List.append_assoc] using this

theorem fresh_sound (authEpoch : String) (trust : ClockTrust) : (fresh authEpoch trust).Sound where
  registry := .empty
  regular := ⟨fun _ h => absurd h List.not_mem_nil, fun _ h => absurd h List.not_mem_nil⟩
  usable := .of_empty _ rfl rfl

/-- Readings of a device that declare the same key, channel and variant are in the same series,
whatever was defined between them, unless the device has series of that measurement both without
a channel and with channel 0. -/
theorem same_declaration_same_series (c : Collector.Components RegistryDb) (clock : Clock)
    (authEpoch : String) (trust : ClockTrust) (events : List Event) (s : Site)
    (hrun : Machine.run (step c clock) (fresh authEpoch trust) events = some s)
    (i j : StoredItem) (hi : i ∈ (fresh authEpoch trust).log c clock events)
    (hj : j ∈ (fresh authEpoch trust).log c clock events) (hdevice : i.systemId = j.systemId)
    (hkey : i.measurementKey = j.measurementKey) (hchannel : i.channelIndex = j.channelIndex)
    (hvariant : i.variant = j.variant)
    (hforms : ∀ r ∈ s.collector.db.ledger.series.rows, r.1 = i.seriesId →
      ¬Registry.BothForms s.collector.db.ledger i.systemId r.2.measurementKey i.variant) :
    i.seriesId = j.seriesId := by
  obtain ⟨hsound, hholds⟩ := run_sound (fresh_sound authEpoch trust) .nil hrun
  exact Registry.Placed.series_eq hsound.registry hsound.regular (hholds i hi) (hholds j hj)
    hdevice hkey hchannel hvariant hforms

section Porch

def porch : Collector.Components RegistryDb where
  host := Ops.Confirmation.plainHost
  policy := sqliteRegistry Ops.Confirmation.plainHost

def freshPorch : Site := fresh "epoch" ⟨5000, 60000, .untrusted, none, 0, 0⟩

def porchSensor : DeviceRow where
  hardwareId := "hw-1"
  kind := .individual
  state := .active
  createdAt := 0

def registered : Event :=
  .mutate (fun db => { db with ledger.devices := AList.singleton ⟨7⟩ porchSensor }) none

def porchReading (key : String) : ReadingItem where
  subjectHint := some "hw-1"
  measurementKey := key
  values := [.finite 3 0]
  timeSource := .edgeNode

def submitted (id : String) (item : ReadingItem) : Event :=
  .submit ⟨[], .ok ⟨1000, none⟩⟩
    ⟨.trustedOfficialAdapter "local:porch" "porch", ⟨id, "porch", [item]⟩⟩

def observed (id key : String) : Event := submitted id (porchReading key)

def resolvedTo (key custom : String) : Event :=
  .dispatch
    { op := Ops.resolveUnknownKeyOp
      params := .object [("key", .str key), ("resolution", .object [("custom", .object
        [("measurement_key", .str custom), ("value_type", .str "float"),
          ("semantic_class", .str "contact"), ("channel_mode", .str "single")])])]
      dryRun := false
      actor := ⟨"local", .localCli, .construction⟩
      source := none
      stepUpVerified := true
      clockTrust := true } {} []

def doorEvents : List Event :=
  [registered, observed "e1" "door", resolvedTo "door" "custom.door", observed "e2" "door"]

/-- The key of the first reading becomes an alias before the second. -/
theorem door_stays_in_its_series :
    ∃ s i j, Machine.run (step porch Ops.stoppedClock) freshPorch doorEvents = some s
      ∧ freshPorch.log porch Ops.stoppedClock doorEvents = [i, j] ∧ i.seriesId = j.seriesId := by
  have hrows : (Machine.run (step porch Ops.stoppedClock) freshPorch doorEvents).map
      (fun s => s.collector.db.ledger.series.rows.map fun r => r.2.columns)
      = some [(⟨7⟩, "door", channelNa, "primary")] := by decide +kernel
  obtain ⟨s, hrun, hrows⟩ := Option.map_eq_some_iff.1 hrows
  have hlog : freshPorch.log porch Ops.stoppedClock doorEvents
      = [⟨⟨7⟩, "door", none, "primary", 1⟩, ⟨⟨7⟩, "door", none, "primary", 1⟩] := by decide +kernel
  refine ⟨s, _, _, hrun, hlog, same_declaration_same_series porch Ops.stoppedClock _ _ doorEvents s
    hrun _ _ (hlog ▸ by simp) (hlog ▸ by simp) rfl rfl rfl rfl ?_⟩
  intro r hr _ hforms
  obtain ⟨r', hr', hcolumns⟩ := hforms 0 (.inr rfl)
  have hmem := List.mem_map_of_mem (f := fun r : ℕ × SeriesRow => r.2.columns) hr'
  rw [hrows, hcolumns] at hmem
  simp [channelNa] at hmem

def colonEvents : List Event :=
  [registered, submitted "e1" { porchReading "door" with seriesVariant := some "left:1" }]

/-- An accepted reading of the variant `left:1` makes a series that is listed under a key which
cannot be read. -/
theorem colon_in_variant_is_not_found :
    (Machine.run (step porch Ops.stoppedClock) freshPorch colonEvents).map (fun s =>
      s.collector.db.ledger.series.rows.map fun r =>
        (Ledger.findSeriesByKey (Ledger.listRow s.collector.db.ledger r).seriesKey
          ⟨s.collector.db.ledger, [], 0⟩).1)
      = some [.error (.invalidId ("series_key must have 4 colon-separated parts: "
        ++ "00000000-0000-0000-0000-000000000007:door:na:left:1"))] := by
  decide +kernel

end Porch

end Site

end EdgeNode
