import EdgeNode.Proofs.SeriesKeys
import EdgeNode.Registry.Define
import EdgeNode.Registry.Policy

/-!
# The registry's name space

Keys and aliases live in two tables and share one name space. Every function that defines a name has
found it in neither table before it writes (`Extends`), and an alias only ever leads to an entry that
exists, so the tables stay apart (`WellFormed`). Resolving a key can then fail only with the
database.
-/

namespace EdgeNode

open Tx

namespace RegistryDb

def HasEntry (g : RegistryDb) (key : String) : Prop := ∃ e ∈ g.entries, e.measurementKey = key

def HasAlias (g : RegistryDb) (name : String) : Prop := ∃ a ∈ g.aliases, a.aliasName = name

def Resolves (g : RegistryDb) (key : String) : Prop := g.HasEntry key ∨ g.HasAlias key

structure WellFormed (g : RegistryDb) : Prop where
  keys : (g.entries.map EntryRow.measurementKey).Nodup
  names : (g.aliases.map AliasRow.aliasName).Nodup
  apart : ∀ e ∈ g.entries, ∀ a ∈ g.aliases, e.measurementKey ≠ a.aliasName
  targets : ∀ a ∈ g.aliases, g.HasEntry a.measurementKey
  grammar : ∀ e ∈ g.entries, validateMeasurementKey e.measurementKey = .ok ()

inductive Extends (g : RegistryDb) : RegistryDb → Prop
  | entry (row : EntryRow) (hnew : ¬g.Resolves row.measurementKey)
      (hvalid : validateMeasurementKey row.measurementKey = .ok ()) :
      Extends g { g with entries := g.entries ++ [row] }
  | aliased (row : AliasRow) (hnew : ¬g.Resolves row.aliasName)
      (htarget : g.HasEntry row.measurementKey) :
      Extends g { g with aliases := g.aliases ++ [row] }

variable {g g' : RegistryDb} {key : String}

theorem WellFormed.empty : WellFormed {} where
  keys := .nil
  names := .nil
  apart := by simp
  targets := by simp
  grammar := by simp

theorem WellFormed.extends (h : g.WellFormed) (hext : g.Extends g') : g'.WellFormed := by
  cases hext with
  | entry row hnew hvalid =>
    refine ⟨?_, h.names, fun e he a ha => ?_, fun a ha => ?_, fun e he => ?_⟩
    · rw [List.map_append, List.nodup_append]
      refine ⟨h.keys, by simp, fun key hkey key' hkey' => ?_⟩
      obtain ⟨e, he, rfl⟩ := List.mem_map.1 hkey
      obtain rfl : key' = row.measurementKey := by simpa using hkey'
      exact fun heq => hnew (.inl ⟨e, he, heq⟩)
    · rcases List.mem_append.1 he with he | he
      · exact h.apart e he a ha
      · obtain rfl := List.mem_singleton.1 he
        exact fun heq => hnew (.inr ⟨a, ha, heq.symm⟩)
    · obtain ⟨e, he, hkey⟩ := h.targets a ha
      exact ⟨e, List.mem_append_left _ he, hkey⟩
    · rcases List.mem_append.1 he with he | he
      · exact h.grammar e he
      · obtain rfl := List.mem_singleton.1 he
        exact hvalid
  | aliased row hnew htarget =>
    refine ⟨h.keys, ?_, fun e he a ha => ?_, fun a ha => ?_, h.grammar⟩
    · rw [List.map_append, List.nodup_append]
      refine ⟨h.names, by simp, fun name hname name' hname' => ?_⟩
      obtain ⟨a, ha, rfl⟩ := List.mem_map.1 hname
      obtain rfl : name' = row.aliasName := by simpa using hname'
      exact fun heq => hnew (.inr ⟨a, ha, heq⟩)
    · rcases List.mem_append.1 ha with ha | ha
      · exact h.apart e he a ha
      · obtain rfl := List.mem_singleton.1 ha
        exact fun heq => hnew (.inl ⟨e, he, heq⟩)
    · rcases List.mem_append.1 ha with ha | ha
      · exact h.targets a ha
      · obtain rfl := List.mem_singleton.1 ha
        exact htarget

theorem WellFormed.direct (h : g.WellFormed) {a b : AliasRow} (ha : a ∈ g.aliases)
    (hb : b ∈ g.aliases) : a.measurementKey ≠ b.aliasName := by
  obtain ⟨e, he, hkey⟩ := h.targets a ha
  exact hkey ▸ h.apart e he b hb

theorem WellFormed.entry_unique (h : g.WellFormed) {e e' : EntryRow} (he : e ∈ g.entries)
    (he' : e' ∈ g.entries) (hkey : e.measurementKey = e'.measurementKey) : e = e' :=
  List.inj_on_of_nodup_map h.keys he he' hkey

theorem WellFormed.alias_unique (h : g.WellFormed) {a a' : AliasRow} (ha : a ∈ g.aliases)
    (ha' : a' ∈ g.aliases) (hname : a.aliasName = a'.aliasName) : a = a' :=
  List.inj_on_of_nodup_map h.names ha ha' hname

end RegistryDb

/-! ## What the functions write -/

theorem standardCatalog_grammar :
    ∀ entry ∈ standardCatalog.measurements, validateMeasurementKey entry.key = .ok () := by
  decide +kernel

theorem standardCatalog_find {key : String} {entry : CatalogEntry}
    (h : standardCatalog.find key = some entry) :
    entry.key = key ∧ validateMeasurementKey entry.key = .ok () :=
  ⟨by simpa using List.find?_some h,
    standardCatalog_grammar _ (List.mem_of_find?_eq_some h)⟩

namespace Registry

variable {host : Host} {l l' : LedgerDb} {g g' : RegistryDb} {db db' : LedgerDb × RegistryDb} {n : ℕ}
  {key : String}

def IsStorage (e : RegistryError) : Prop := e = .sqlite ∨ e = .ledger .sqlite

def Noted (l l' : LedgerDb) : Prop := ∃ events, l' = { l with events := events }

theorem Noted.refl (l : LedgerDb) : Noted l l := ⟨l.events, rfl⟩

theorem Noted.trans {l'' : LedgerDb} (h : Noted l l') (h' : Noted l' l'') : Noted l l'' := by
  obtain ⟨events, rfl⟩ := h
  obtain ⟨events', rfl⟩ := h'
  exact ⟨events', rfl⟩

theorem getEntry_eq_some {row : EntryRow}
    (h : (g.entries.find? fun e => e.measurementKey == key) = some row) :
    row ∈ g.entries ∧ row.measurementKey = key :=
  ⟨List.mem_of_find?_eq_some h, by simpa using List.find?_some h⟩

theorem getEntry_eq_none :
    (g.entries.find? fun e => e.measurementKey == key) = none ↔ ¬g.HasEntry key := by
  simp [RegistryDb.HasEntry]

theorem aliasExists_iff : (g.aliases.any fun a => a.aliasName == key) = true ↔ g.HasAlias key := by
  simp [RegistryDb.HasAlias]

theorem recordEvent_noted (kind : String) (systemId : Option SystemId) (detail : String) :
    wp (onLedger (Ledger.recordEvent host kind systemId detail))
      (fun _ db' _ => Noted db.1 db'.1 ∧ db'.2 = db.2) (fun e db' _ => db' = db ∧ IsStorage e) db n := by
  refine wp_on (wp_mapError (wp_bind (wp_draw (wp_stmt ⟨rfl, .inr rfl⟩ ?_ ?_))))
  · intro _ l' h
    split at h
    · simp only [Except.ok.injEq, Prod.mk.injEq] at h
      obtain ⟨-, rfl⟩ := h
      exact ⟨⟨_, rfl⟩, rfl⟩
    · simp at h
  · intro e h
    split at h
    · simp at h
    · obtain rfl := Except.error.inj h
      exact ⟨rfl, .inr rfl⟩

def Found (g : RegistryDb) (key : String) : Option Resolution → Prop
  | none => ¬g.Resolves key
  | some (.entry row) => row ∈ g.entries ∧ row.measurementKey = key
  | some (.aliased canonical _) => canonical ∈ g.entries
      ∧ ∃ a ∈ g.aliases, a.aliasName = key ∧ canonical.measurementKey = a.measurementKey

theorem findResolution_wp (hg : g.WellFormed) :
    wp (findResolution key) (fun r g' _ => g' = g ∧ Found g key r)
      (fun e g' _ => g' = g ∧ e = .sqlite) g n := by
  refine wp_bind (wp_query ⟨rfl, rfl⟩ ?_)
  cases hentry : g.entries.find? fun e => e.measurementKey == key with
  | some row => exact wp_pure ⟨rfl, getEntry_eq_some hentry⟩
  | none =>
    refine wp_bind (wp_query ⟨rfl, rfl⟩ ?_)
    cases halias : g.aliases.find? fun a => a.aliasName == key with
    | none =>
      refine wp_pure ⟨rfl, ?_⟩
      rintro (hentry' | ⟨a, ha, hname⟩)
      · exact getEntry_eq_none.1 hentry hentry'
      · exact List.find?_eq_none.1 halias a ha (by simp [hname])
    | some a =>
      have ha := List.mem_of_find?_eq_some halias
      have hname : a.aliasName = key := by simpa using List.find?_some halias
      refine wp_bind (wp_query ⟨rfl, rfl⟩ ?_)
      cases htarget : g.entries.find? fun e => e.measurementKey == a.measurementKey with
      | some canonical =>
        obtain ⟨hmem, hkey⟩ := getEntry_eq_some htarget
        exact wp_pure ⟨rfl, hmem, a, ha, hname, hkey⟩
      | none => exact absurd (hg.targets a ha) (getEntry_eq_none.1 htarget)

structure Enabled (key : String) (db db' : LedgerDb × RegistryDb) : Prop where
  ledger : Noted db.1 db'.1
  registry : db'.2 = db.2 ∨ ¬db.2.Resolves key ∧ EdgeNode.validateMeasurementKey key = .ok ()
    ∧ ∃ row, row.measurementKey = key ∧ db'.2 = { db.2 with entries := db.2.entries ++ [row] }

theorem Enabled.refl (key : String) (db : LedgerDb × RegistryDb) : Enabled key db db :=
  ⟨.refl _, .inl rfl⟩

theorem insertEntry_wp {row : EntryRow} (hentry : ¬db.2.HasEntry row.measurementKey) :
    wp (onEntries (insertEntry row))
      (fun _ db' _ => db' = (db.1, { db.2 with entries := db.2.entries ++ [row] }))
      (fun e db' _ => db' = db ∧ e = .sqlite) db n := by
  have hnone : (db.2.entries.any fun e => e.measurementKey == row.measurementKey) = false := by
    rw [← Bool.not_eq_true, List.any_eq_true]
    simpa [RegistryDb.HasEntry] using hentry
  refine wp_on (wp_stmt ⟨rfl, rfl⟩ ?_ ?_)
  · intro _ g' h
    rw [hnone] at h
    simp only [Bool.false_eq_true, if_false, Except.ok.injEq, Prod.mk.injEq] at h
    rw [← h.2]
  · intro e h
    rw [hnone] at h
    simp at h

theorem enabling_wp (row : EntryRow) {kind detail : String}
    (hnew : ¬db.2.Resolves row.measurementKey)
    (hvalid : EdgeNode.validateMeasurementKey row.measurementKey = .ok ()) :
    wp (do
        onEntries (insertEntry row)
        onLedger (Ledger.recordEvent host kind none detail)
        match ← onEntries (getEntry row.measurementKey) with
        | some row => pure row
        | none => Tx.fail .sqlite : Tx (LedgerDb × RegistryDb) RegistryError EntryRow)
      (fun entry db' _ => Enabled row.measurementKey db db' ∧ entry ∈ db'.2.entries
        ∧ entry.measurementKey = row.measurementKey)
      (fun e db' _ => Enabled row.measurementKey db db' ∧ IsStorage e) db n := by
  refine wp_bind (wp_mono (insertEntry_wp fun h => hnew (.inl h)) ?_ ?_)
  · rintro _ _ n₁ rfl
    refine wp_bind (wp_mono (recordEvent_noted kind none detail) ?_ ?_)
    · rintro _ db₂ n₂ ⟨hnoted, hregistry⟩
      have henabled : Enabled row.measurementKey db db₂ :=
        ⟨hnoted, .inr ⟨hnew, hvalid, row, rfl, hregistry⟩⟩
      refine wp_bind (wp_on (wp_query ⟨henabled, .inl rfl⟩ ?_))
      cases hread : db₂.2.entries.find? fun e => e.measurementKey == row.measurementKey with
      | some entry =>
        obtain ⟨hmem, hkey⟩ := getEntry_eq_some hread
        exact wp_pure ⟨henabled, hmem, hkey⟩
      | none => exact wp_fail ⟨henabled, .inl rfl⟩
    · rintro e _ n₂ ⟨rfl, hstorage⟩
      exact ⟨⟨.refl _, .inr ⟨hnew, hvalid, row, rfl, rfl⟩⟩, hstorage⟩
  · rintro e _ n₁ ⟨rfl, rfl⟩
    exact ⟨.refl _ _, .inl rfl⟩

/-- An entry of the catalogue is there afterwards. Apart from the database only an alias of that name
can stand in the way. -/
theorem enableEntry_wp {entry : CatalogEntry} {version trigger : String}
    (hvalid : EdgeNode.validateMeasurementKey entry.key = .ok ()) :
    wp (enableEntry host entry version trigger)
      (fun row db' _ => Enabled entry.key db db' ∧ row ∈ db'.2.entries
        ∧ row.measurementKey = entry.key)
      (fun e db' _ => Enabled entry.key db db' ∧ (IsStorage e ∨ db.2.HasAlias entry.key)) db n := by
  refine wp_bind (wp_on (wp_query ⟨.refl _ _, .inl (.inl rfl)⟩ ?_))
  cases hentry : db.2.entries.find? fun e => e.measurementKey == entry.key with
  | some row => exact wp_pure ⟨.refl _ _, getEntry_eq_some hentry⟩
  | none =>
    refine wp_bind (wp_on (wp_query ⟨.refl _ _, .inl (.inl rfl)⟩ ?_))
    by_cases halias : db.2.HasAlias entry.key
    · rw [if_pos (aliasExists_iff.2 halias)]
      exact wp_fail ⟨.refl _ _, .inr halias⟩
    · rw [if_neg fun h => halias (aliasExists_iff.1 h)]
      refine wp_bind (wp_draw ?_)
      have hnew : ¬db.2.Resolves entry.key := not_or.2 ⟨getEntry_eq_none.1 hentry, halias⟩
      exact wp_mono (enabling_wp (catalogRow host entry version (host.nowMs n)) hnew hvalid)
        (fun _ _ _ h => h) fun _ _ _ h => ⟨h.1, .inl h.2⟩

theorem validateCustomEntrySpec_key {spec : CustomEntrySpec}
    (h : validateCustomEntrySpec spec = .ok ()) :
    EdgeNode.validateMeasurementKey spec.measurementKey = .ok () := by
  unfold validateCustomEntrySpec validateMeasurementKey at h
  cases hkey : EdgeNode.validateMeasurementKey spec.measurementKey with
  | ok => rfl
  | error e =>
    rw [hkey] at h
    split at h <;> simp [Except.mapError, bind, Except.bind] at h

theorem defineCustomEntry_wp {spec : CustomEntrySpec} :
    wp (defineCustomEntry host spec)
      (fun row db' _ => Enabled spec.measurementKey db db' ∧ row ∈ db'.2.entries
        ∧ row.measurementKey = spec.measurementKey)
      (fun _ db' _ => Enabled spec.measurementKey db db') db n := by
  refine wp_bind (wp_ofExcept (fun _ hspec => ?_) fun _ _ => .refl _ _)
  have hvalid := validateCustomEntrySpec_key hspec
  refine wp_bind (wp_on (wp_query (.refl _ _) ?_))
  cases hentry : db.2.entries.find? fun e => e.measurementKey == spec.measurementKey with
  | some row => exact wp_fail (.refl _ _)
  | none =>
    refine wp_bind (wp_on (wp_query (.refl _ _) ?_))
    by_cases halias : db.2.HasAlias spec.measurementKey
    · rw [if_pos (aliasExists_iff.2 halias)]
      exact wp_fail (.refl _ _)
    · rw [if_neg fun h => halias (aliasExists_iff.1 h)]
      refine wp_bind (wp_ofExcept (fun range _ => wp_bind (wp_draw ?_)) fun _ _ => .refl _ _)
      have hnew : ¬db.2.Resolves spec.measurementKey :=
        not_or.2 ⟨getEntry_eq_none.1 hentry, halias⟩
      exact wp_mono (enabling_wp (customRow host (CustomEntrySpec.entry spec range) (host.nowMs n))
        hnew hvalid) (fun _ _ _ h => h) fun _ _ _ h => h.1

/-! ## Quarantine -/

structure Marked (l l' : LedgerDb) : Prop where
  beside : l' = { l with series := l'.series, events := l'.events }
  rows : ∃ f : ℕ × SeriesRow → SeriesRow, l'.series.rows = l.series.rows.map (fun r => (r.1, f r))
    ∧ ∀ r, (f r).columns = r.2.columns
      ∧ (f r = r.2 ∨ (f r).quarantineReason ≠ some "unknown_key")

theorem Marked.of_noted (h : Noted l l') : Marked l l' := by
  obtain ⟨events, rfl⟩ := h
  exact ⟨rfl, Prod.snd, by simp, fun r => ⟨rfl, .inl rfl⟩⟩

theorem Marked.refl (l : LedgerDb) : Marked l l := .of_noted (.refl l)

theorem Marked.trans {l'' : LedgerDb} (h : Marked l l') (h' : Marked l' l'') : Marked l l'' := by
  obtain ⟨f, hrows, hf⟩ := h.rows
  obtain ⟨f', hrows', hf'⟩ := h'.rows
  refine ⟨?_, fun r => f' (r.1, f r), ?_, fun r => ⟨?_, ?_⟩⟩
  · rw [h'.beside, h.beside]
  · rw [hrows', hrows, List.map_map]
    rfl
  · rw [(hf' (r.1, f r)).1]
    exact (hf r).1
  · dsimp only
    rcases (hf' (r.1, f r)).2 with heq | hreason
    · rw [heq]
      exact (hf r).2
    · exact .inr hreason

theorem Marked.update {f : SeriesRow → SeriesRow} (hcolumns : ∀ r, (f r).columns = r.columns)
    (hreason : ∀ r, (f r).quarantineReason ≠ some "unknown_key") (l : LedgerDb) (id : ℕ) :
    Marked l { l with series := l.series.update id f } := by
  refine ⟨rfl, fun r => if r.1 = id then f r.2 else r.2, ?_, fun r => ?_⟩
  · refine List.map_congr_left fun r _ => ?_
    dsimp only
    split_ifs <;> rfl
  · dsimp only
    split_ifs
    · exact ⟨hcolumns r.2, .inr (hreason r.2)⟩
    · exact ⟨rfl, .inl rfl⟩

theorem Marked.kept (h : Marked l l') {r' : ℕ × SeriesRow} (hr' : r' ∈ l'.series.rows)
    (hreason : r'.2.quarantineReason = some "unknown_key") : r' ∈ l.series.rows := by
  obtain ⟨f, hrows, hf⟩ := h.rows
  rw [hrows, List.mem_map] at hr'
  obtain ⟨r, hr, rfl⟩ := hr'
  rcases (hf r).2 with heq | hne
  · rwa [heq]
  · exact absurd hreason hne

theorem updates_wp (f : SeriesRow → SeriesRow) (hcolumns : ∀ r, (f r).columns = r.columns)
    (hreason : ∀ r, (f r).quarantineReason ≠ some "unknown_key") (ids : List ℕ) :
    wp (Tx.forEach (fun id => Tx.exec LedgerError.sqlite fun db : LedgerDb =>
        { db with series := db.series.update id f }) ids)
      (fun _ l' _ => Marked l l' ∧ ∀ r ∈ l'.series.rows, r.1 ∈ ids →
        r.2.quarantineReason ≠ some "unknown_key")
      (fun _ l' _ => Marked l l') l n := by
  refine wp_mono (wp_forEach (I := fun rest l' _ => Marked l l' ∧ ∀ r ∈ l'.series.rows, r.1 ∈ ids →
    r.1 ∉ rest → r.2.quarantineReason ≠ some "unknown_key") (E := fun _ l' _ => Marked l l')
    (fun id rest l₁ n₁ h₁ => ?_) ⟨.refl _, fun r _ hin hout => absurd hin hout⟩) ?_ fun _ _ _ => id
  · refine wp_exec h₁.1 ⟨h₁.1.trans (.update hcolumns hreason l₁ id), fun r hr hin hout => ?_⟩
    obtain ⟨r₁, hr₁, rfl⟩ := List.mem_map.1 hr
    by_cases hid : r₁.1 = id
    · rw [if_pos hid]
      exact hreason r₁.2
    · rw [if_neg hid] at hin hout ⊢
      exact h₁.2 r₁ hr₁ hin (by simp [hid, hout])
  · exact fun _ l' _ h => ⟨h.1, fun r hr hin => h.2 r hr hin (by simp)⟩

def Settled (l : LedgerDb) (key : String) : Prop :=
  ∀ r ∈ l.series.rows, r.2.measurementKey = key → r.2.quarantined = true →
    r.2.quarantineReason ≠ some "unknown_key"

theorem release_wp (channelOk : ℤ → Bool) :
    wp (Ledger.releaseSeriesQuarantineForKeyChecked key "unknown_key" channelOk)
      (fun _ l' _ => Marked l l' ∧ Settled l' key) (fun e l' _ => Marked l l' ) l n := by
  refine wp_bind (wp_query (.refl _) ?_)
  dsimp only
  refine wp_bind (wp_mono (updates_wp
    (fun r => { r with quarantined := false, quarantineReason := none })
    (fun _ => rfl) (fun _ => by simp) _) ?_ fun _ _ _ => id)
  rintro _ l₁ n₁ ⟨h₁, hreleased⟩
  refine wp_bind (wp_mono (updates_wp
    (fun r => { r with quarantineReason := some "undeclared_channel" })
    (fun _ => rfl) (fun _ => by simp) _) ?_ fun _ _ _ h => h₁.trans h)
  rintro _ l₂ n₂ ⟨h₂, hmismatch⟩
  refine wp_pure ⟨h₁.trans h₂, fun r hr hkey hquarantined hreason => ?_⟩
  -- A series that is still marked as unknown has never been touched, so both loops had to reach it.
  have hr₁ := h₂.kept hr hreason
  have hr₀ := h₁.kept hr₁ hreason
  have hmarked : r ∈ l.series.rows.filter fun r => r.2.measurementKey == key && r.2.quarantined
      && r.2.quarantineReason == some "unknown_key" := by
    simp [hr₀, hkey, hquarantined, hreason]
  by_cases hchannel : channelOk r.2.channelIndex = true
  · exact hreleased r hr₁ (List.mem_map_of_mem (List.mem_filter.2 ⟨hmarked, hchannel⟩)) hreason
  · exact hmismatch r hr (List.mem_map_of_mem (List.mem_filter.2 ⟨hmarked, by simpa using hchannel⟩))
      hreason

/-- What defining an alias writes: the alias, which had no definition, and the end of quarantines. -/
structure Linked (name : String) (db db' : LedgerDb × RegistryDb) : Prop where
  ledger : Marked db.1 db'.1
  registry : db'.2 = db.2 ∨ ¬db.2.Resolves name ∧ ∃ row, row.aliasName = name
    ∧ db.2.HasEntry row.measurementKey ∧ db'.2 = { db.2 with aliases := db.2.aliases ++ [row] }

theorem Linked.refl (name : String) (db : LedgerDb × RegistryDb) : Linked name db db :=
  ⟨.refl _, .inl rfl⟩

theorem insertAlias_wp {row : AliasRow} (halias : ¬db.2.HasAlias row.aliasName)
    (htarget : db.2.HasEntry row.measurementKey) :
    wp (onEntries (insertAlias row))
      (fun _ db' _ => db' = (db.1, { db.2 with aliases := db.2.aliases ++ [row] }))
      (fun _ db' _ => db' = db) db n := by
  have hnone : (db.2.aliases.any fun a => a.aliasName == row.aliasName) = false := by
    rw [← Bool.not_eq_true, aliasExists_iff]
    exact halias
  have hsome : (db.2.entries.any fun e => e.measurementKey == row.measurementKey) = true := by
    simpa [RegistryDb.HasEntry] using htarget
  refine wp_on (wp_stmt rfl ?_ ?_)
  · intro _ g' h
    rw [hnone, hsome] at h
    simp only [Bool.false_eq_true, if_false, Bool.not_true, Except.ok.injEq, Prod.mk.injEq] at h
    rw [← h.2]
  · exact fun _ _ => rfl

theorem defineAlias_wp {name target : String} {kind : AliasKind} :
    wp (defineAlias host name target kind)
      (fun _ db' _ => Linked name db db' ∧ Settled db'.1 name)
      (fun _ db' _ => Linked name db db') db n := by
  refine wp_bind (wp_ofExcept (fun _ _ => ?_) fun _ _ => .refl _ _)
  refine wp_bind (wp_on (wp_query (.refl _ _) ?_))
  cases hentry : db.2.entries.find? fun e => e.measurementKey == name with
  | some row => exact wp_fail (.refl _ _)
  | none =>
    refine wp_bind (wp_on (wp_query (.refl _ _) ?_))
    by_cases halias : db.2.HasAlias name
    · rw [if_pos (aliasExists_iff.2 halias)]
      exact wp_fail (.refl _ _)
    rw [if_neg fun h => halias (aliasExists_iff.1 h)]
    refine wp_bind (wp_on (wp_query (.refl _ _) ?_))
    cases htarget : db.2.entries.find? fun e => e.measurementKey == target with
    | none => exact wp_fail (.refl _ _)
    | some entry =>
      have hnew : ¬db.2.Resolves name := not_or.2 ⟨getEntry_eq_none.1 hentry, halias⟩
      have hexists : db.2.HasEntry target := ⟨entry, getEntry_eq_some htarget⟩
      refine wp_bind (wp_draw (wp_bind (wp_mono (insertAlias_wp halias hexists) ?_ ?_)))
      · rintro _ _ n₁ rfl
        have hlinked : ∀ l', Marked db.1 l' → Linked name db
            (l', { db.2 with aliases := db.2.aliases ++ [⟨name, target, kind, host.nowMs n⟩] }) :=
          fun l' h => ⟨h, .inr ⟨hnew, _, rfl, hexists, rfl⟩⟩
        refine wp_bind (wp_on (wp_mapError (wp_mono (release_wp _) ?_ fun _ _ _ h => hlinked _ h)))
        rintro ended l₁ n₂ ⟨hmarked, hsettled⟩
        split_ifs
        · exact wp_pure ⟨hlinked _ hmarked, hsettled⟩
        · refine wp_mono (recordEvent_noted _ _ _) ?_ ?_
          · rintro _ ⟨l₂, g₂⟩ n₃ ⟨⟨events, rfl⟩, rfl⟩
            exact ⟨hlinked _ (hmarked.trans (.of_noted ⟨events, rfl⟩)), hsettled⟩
          · rintro _ _ n₃ ⟨rfl, -⟩
            exact hlinked _ hmarked
      · rintro _ _ n₁ rfl
        exact .refl _ _

/-! ## Evaluating an item -/

def HasSeries (l : LedgerDb) (systemId : SystemId) (key : String) : Prop :=
  ∃ r ∈ l.series.rows, r.2.systemId = systemId ∧ r.2.measurementKey = key

def declaredChannel (channel : Option ℕ) : ℤ := channel.elim channelNa fun n => (n : ℤ)

/-- The channel a reading goes under by a definition: of a single-channel measurement no channel and
channel 0 are one. -/
def ChannelSuits (mode : ChannelMode) (declared : Option ℕ) (channel : ℤ) : Prop :=
  if mode = .single ∧ (declared = none ∨ declared = some 0) then channel = channelNa ∨ channel = 0
  else channel = declaredChannel declared

/-- The definition a declared key has, and the key the series of a device go under: the canonical one
for an alias, unless the device has series under the alias itself. -/
inductive Defined (l : LedgerDb) (g : RegistryDb) (systemId : SystemId) (declaredKey : String) :
    EntryRow → String → Prop
  | entry (e : EntryRow) (he : e ∈ g.entries) (hkey : e.measurementKey = declaredKey) :
      Defined l g systemId declaredKey e declaredKey
  | own (a : AliasRow) (e : EntryRow) (ha : a ∈ g.aliases) (he : e ∈ g.entries)
      (hname : a.aliasName = declaredKey) (hkey : e.measurementKey = a.measurementKey)
      (hown : HasSeries l systemId declaredKey) : Defined l g systemId declaredKey e declaredKey
  | canonical (a : AliasRow) (e : EntryRow) (ha : a ∈ g.aliases) (he : e ∈ g.entries)
      (hname : a.aliasName = declaredKey) (hkey : e.measurementKey = a.measurementKey)
      (hown : ¬HasSeries l systemId declaredKey) :
      Defined l g systemId declaredKey e e.measurementKey

/-- The key and channel a reading of a device goes under, for the key and channel it declares. -/
inductive Suits (l : LedgerDb) (g : RegistryDb) (systemId : SystemId) (declaredKey : String)
    (declared : Option ℕ) : String → ℤ → Prop
  | unknown (hunknown : ¬g.Resolves declaredKey)
      (hcatalog : standardCatalog.find declaredKey = none) :
      Suits l g systemId declaredKey declared declaredKey (declaredChannel declared)
  | defined {resolvedKey : String} {channel : ℤ} (e : EntryRow)
      (hdefined : Defined l g systemId declaredKey e resolvedKey)
      (hchannel : ChannelSuits e.channelMode declared channel) :
      Suits l g systemId declaredKey declared resolvedKey channel

structure Observed (key : String) (db db' : LedgerDb × RegistryDb) : Prop extends
    Enabled key db db' where
  catalog : db'.2 = db.2 ∨ (standardCatalog.find key).isSome = true

theorem Observed.refl (key : String) (db : LedgerDb × RegistryDb) : Observed key db db :=
  ⟨.refl _ _, .inl rfl⟩

theorem Observed.noted (h : Observed key db db') {l : LedgerDb} (hl : Noted db'.1 l) :
    Observed key db (l, db'.2) :=
  ⟨⟨h.ledger.trans hl, h.registry⟩, h.catalog⟩

variable {systemId : SystemId} {item : ReadingItem}

theorem seriesExistsForKey_iff :
    (l.series.rows.any fun r => r.2.systemId == systemId && r.2.measurementKey == key) = true
      ↔ HasSeries l systemId key := by
  simp [HasSeries]

theorem resolveKey_wp (hg : db.2.WellFormed) :
    wp (resolveKey host systemId item)
      (fun r db' _ => Observed item.measurementKey db db' ∧ match r with
        | none => ¬db'.2.Resolves item.measurementKey
            ∧ standardCatalog.find item.measurementKey = none
        | some (e, resolvedKey) => Defined db'.1 db'.2 systemId item.measurementKey e resolvedKey)
      (fun e db' _ => Observed item.measurementKey db db' ∧ IsStorage e) db n := by
  refine wp_bind (wp_on (wp_mono (findResolution_wp hg) ?_ ?_))
  · rintro found _ n₁ ⟨rfl, hfound⟩
    rcases found with _ | row | ⟨canonical, kind⟩
    · have hnew : ¬db.2.Resolves item.measurementKey := hfound
      dsimp only
      split
      · rename_i entry hentry
        obtain ⟨hkey, hvalid⟩ := standardCatalog_find hentry
        refine wp_bind (wp_mono (enableEntry_wp hvalid) ?_ ?_)
        · rintro row db' n₂ ⟨henabled, hrow, hrowkey⟩
          rw [hkey] at henabled hrowkey
          exact wp_pure ⟨⟨henabled, .inr (by rw [hentry]; rfl)⟩, .entry row hrow hrowkey⟩
        · rintro e db' n₂ ⟨henabled, hstorage⟩
          rw [hkey] at henabled hstorage
          exact ⟨⟨henabled, .inr (by rw [hentry]; rfl)⟩,
            hstorage.resolve_right fun h => hnew (.inr h)⟩
      · rename_i hnone
        exact wp_pure ⟨.refl _ _, hnew, hnone⟩
    · exact wp_pure ⟨.refl _ _, .entry row hfound.1 hfound.2⟩
    · obtain ⟨hcanonical, a, ha, hname, hkey⟩ := hfound
      refine wp_bind (wp_on (wp_mapError (wp_query ⟨.refl _ _, .inr rfl⟩ ?_)))
      by_cases hown : HasSeries db.1 systemId item.measurementKey
      · rw [if_pos (seriesExistsForKey_iff.2 hown)]
        exact wp_pure ⟨.refl _ _, .own a canonical ha hcanonical hname hkey hown⟩
      · rw [if_neg fun h => hown (seriesExistsForKey_iff.1 h)]
        exact wp_pure ⟨.refl _ _, .canonical a canonical ha hcanonical hname hkey hown⟩
  · rintro e _ n₁ ⟨rfl, rfl⟩
    exact ⟨.refl _ _, .inl rfl⟩

theorem singleChannel_wp {resolvedKey : String} :
    wp (singleChannel host systemId item resolvedKey)
      (fun channel db' _ => (Noted db.1 db'.1 ∧ db'.2 = db.2) ∧ (channel = channelNa ∨ channel = 0))
      (fun e db' _ => db' = db ∧ IsStorage e) db n := by
  refine wp_bind (wp_on (wp_mapError (wp_query ⟨rfl, .inr rfl⟩ ?_)))
  refine wp_bind (wp_on (wp_mapError (wp_query ⟨rfl, .inr rfl⟩ ?_)))
  split_ifs
  · refine wp_bind (wp_imp (recordEvent_noted _ _ _) fun _ _ _ h => wp_pure ⟨h, .inl rfl⟩)
  · exact wp_pure ⟨⟨.refl _, rfl⟩, .inl rfl⟩
  · exact wp_pure ⟨⟨.refl _, rfl⟩, .inr rfl⟩
  · exact wp_pure ⟨⟨.refl _, rfl⟩, .inl rfl⟩

theorem resolveChannel_wp {entry : EntryRow} {resolvedKey : String} :
    wp (resolveChannel host systemId item entry resolvedKey)
      (fun r db' _ => (Noted db.1 db'.1 ∧ db'.2 = db.2)
        ∧ ChannelSuits entry.channelMode item.channelIndex r.1)
      (fun e db' _ => db' = db ∧ IsStorage e) db n := by
  unfold resolveChannel ChannelSuits
  cases hmode : entry.channelMode with
  | single =>
    dsimp only
    by_cases hform : item.channelIndex = none ∨ item.channelIndex = some 0
    · rw [if_pos hform]
      refine wp_bind (wp_imp singleChannel_wp fun channel db' _ h => wp_pure ⟨h.1, ?_⟩)
      rw [if_pos ⟨rfl, hform⟩]
      exact h.2
    · rw [if_neg hform]
      refine wp_pure ⟨⟨.refl _, rfl⟩, ?_⟩
      rw [if_neg fun h => hform h.2]
      rfl
  | generic => exact wp_pure ⟨⟨.refl _, rfl⟩, by simp [rawChannel, declaredChannel]⟩
  | fixed => exact wp_pure ⟨⟨.refl _, rfl⟩, by simp [rawChannel, declaredChannel]⟩

theorem Noted.hasSeries (h : Noted l l') : HasSeries l' = HasSeries l := by
  obtain ⟨events, rfl⟩ := h
  rfl

theorem Defined.noted {e : EntryRow} {resolvedKey : String}
    (h : Defined l g systemId key e resolvedKey) (hl : Noted l l') :
    Defined l' g systemId key e resolvedKey := by
  have hsame := hl.hasSeries
  cases h with
  | entry _ he hkey => exact .entry e he hkey
  | own a _ ha he hname hkey hown => exact .own a e ha he hname hkey (by rwa [hsame])
  | canonical a _ ha he hname hkey hown => exact .canonical a e ha he hname hkey (by rwa [hsame])

/-- The verdict on an item: an accepted one goes where its declaration suits, as unknown only when
its key has no definition here or in the catalogue. Only the database can keep it from a verdict. -/
theorem evaluateItem_wp (hg : db.2.WellFormed) :
    wp (evaluateItem host systemId item)
      (fun verdict db' _ => Observed item.measurementKey db db'
        ∧ ∀ resolvedKey channel quarantine, verdict = .accept resolvedKey channel quarantine →
          Suits db'.1 db'.2 systemId item.measurementKey item.channelIndex resolvedKey channel
          ∧ (quarantine = some .unknownKey → resolvedKey = item.measurementKey
            ∧ ¬db'.2.Resolves item.measurementKey
            ∧ standardCatalog.find item.measurementKey = none))
      (fun e db' _ => Observed item.measurementKey db db' ∧ IsStorage e) db n := by
  refine wp_bind (wp_imp (resolveKey_wp hg) ?_)
  rintro resolved db₁ n₁ ⟨hobserved, hresolved⟩
  cases resolved with
  | none =>
    refine wp_pure ⟨hobserved, ?_⟩
    rintro _ _ _ ⟨rfl, rfl, rfl⟩
    exact ⟨.unknown hresolved.1 hresolved.2, fun _ => ⟨rfl, hresolved⟩⟩
  | some resolved =>
    obtain ⟨entry, resolvedKey⟩ := resolved
    dsimp only at hresolved ⊢
    split
    · exact wp_pure ⟨hobserved, by simp⟩
    refine wp_bind (wp_mono resolveChannel_wp ?_ ?_)
    · rintro ⟨channel, undeclared⟩ ⟨l₂, g₂⟩ n₂ ⟨⟨hnoted, rfl⟩, hchannel⟩
      have hsuits := Suits.defined entry (hresolved.noted hnoted) hchannel
      have hverdict : ∀ quarantine, quarantine ≠ some .unknownKey →
          Observed item.measurementKey db (l₂, db₁.2)
          ∧ ∀ resolvedKey' channel' quarantine', RegistryVerdict.accept resolvedKey channel quarantine
              = .accept resolvedKey' channel' quarantine' →
            Suits l₂ db₁.2 systemId item.measurementKey item.channelIndex resolvedKey' channel'
            ∧ (quarantine' = some .unknownKey → resolvedKey' = item.measurementKey
              ∧ ¬db₁.2.Resolves item.measurementKey
              ∧ standardCatalog.find item.measurementKey = none) := by
        intro quarantine hne
        refine ⟨hobserved.noted hnoted, ?_⟩
        rintro _ _ _ ⟨rfl, rfl, rfl⟩
        exact ⟨hsuits, fun h => absurd h hne⟩
      dsimp only
      split_ifs
      · exact wp_pure (hverdict _ (by simp))
      · refine wp_bind (wp_on (wp_mapError (wp_query ⟨hobserved.noted hnoted, .inr rfl⟩ ?_)))
        split_ifs
        · exact wp_pure (hverdict _ (by simp))
        · exact wp_pure (hverdict _ (by simp))
    · rintro e _ n₂ ⟨rfl, hstorage⟩
      exact ⟨hobserved, hstorage⟩

/-! ## Runs of calls -/

theorem Enabled.wellFormed (h : Enabled key db db') (hg : db.2.WellFormed) : db'.2.WellFormed := by
  rcases h.registry with hsame | ⟨hnew, hvalid, row, rfl, hrow⟩
  · rwa [hsame]
  · rw [hrow]
    exact hg.extends (.entry row hnew hvalid)

theorem Linked.wellFormed (h : Linked key db db') (hg : db.2.WellFormed) : db'.2.WellFormed := by
  rcases h.registry with hsame | ⟨hnew, row, rfl, htarget, hrow⟩
  · rwa [hsame]
  · rw [hrow]
    exact hg.extends (.aliased row hnew htarget)

/-- Everything that defines a name. An item enables the entry of the catalogue it is about. -/
inductive Call where
  | evaluate (systemId : SystemId) (item : ReadingItem)
  | enable (key trigger : String)
  | custom (spec : CustomEntrySpec)
  | link (aliasName targetKey : String) (kind : AliasKind)

def Call.perform (host : Host) : Call → Tx (LedgerDb × RegistryDb) RegistryError Unit
  | .evaluate systemId item => do
    let _ ← evaluateItem host systemId item
    pure ()
  | .enable key trigger =>
    match standardCatalog.find key with
    | none => pure ()
    | some entry => do
      let _ ← enableEntry host entry standardCatalog.catalogVersion trigger
      pure ()
  | .custom spec => do
    let _ ← defineCustomEntry host spec
    pure ()
  | .link aliasName targetKey kind => defineAlias host aliasName targetKey kind

def runCalls (host : Host) (calls : List (Call × List Bool)) (conn : Conn (LedgerDb × RegistryDb)) :
    Conn (LedgerDb × RegistryDb) :=
  calls.foldl (fun conn call => (call.1.perform host { conn with faults := call.2 }).2) conn

theorem Call.perform_wellFormed (call : Call) (hg : db.2.WellFormed) :
    wp (call.perform host) (fun _ db' _ => db'.2.WellFormed) (fun _ db' _ => db'.2.WellFormed)
      db n := by
  cases call with
  | evaluate systemId item =>
    exact wp_bind (wp_mono (evaluateItem_wp hg) (fun _ _ _ h => wp_pure (h.1.wellFormed hg))
      fun _ _ _ h => h.1.wellFormed hg)
  | enable key trigger =>
    simp only [Call.perform]
    split
    · exact wp_pure hg
    · rename_i entry hentry
      exact wp_bind (wp_mono (enableEntry_wp (standardCatalog_find hentry).2)
        (fun _ _ _ h => wp_pure (h.1.wellFormed hg)) fun _ _ _ h => h.1.wellFormed hg)
  | custom spec =>
    exact wp_bind (wp_mono defineCustomEntry_wp (fun _ _ _ h => wp_pure (h.1.wellFormed hg))
      fun _ _ _ h => h.wellFormed hg)
  | link aliasName targetKey kind =>
    exact wp_mono defineAlias_wp (fun _ _ _ h => h.1.wellFormed hg) fun _ _ _ h => h.wellFormed hg

theorem runCalls_wellFormed (calls : List (Call × List Bool)) {conn : Conn (LedgerDb × RegistryDb)}
    (hg : conn.db.2.WellFormed) : (runCalls host calls conn).db.2.WellFormed := by
  induction calls generalizing conn with
  | nil => exact hg
  | cons call calls ih =>
    have hone : wp (call.1.perform host) _ _ conn.db conn.draws := call.1.perform_wellFormed hg
    exact ih (hone.after call.2)

/-- Whatever names are defined, in whatever order and whatever fails: no name is a key and an alias,
an alias leads to an entry and never to an alias, and the evaluation of an item can only fail with
the database. -/
theorem registry_names_well_formed (host : Host) (calls : List (Call × List Bool)) (l : LedgerDb)
    (draws : ℕ) :
    let db := (runCalls host calls ⟨(l, {}), [], draws⟩).db
    (∀ name, ¬(db.2.HasEntry name ∧ db.2.HasAlias name))
    ∧ (∀ a ∈ db.2.aliases, db.2.HasEntry a.measurementKey ∧ ¬db.2.HasAlias a.measurementKey)
    ∧ ∀ systemId item n, wp (evaluateItem host systemId item) (fun _ _ _ => True)
      (fun e _ _ => IsStorage e) db n := by
  intro db
  have hg : db.2.WellFormed := runCalls_wellFormed calls .empty
  refine ⟨?_, fun a ha => ⟨hg.targets a ha, ?_⟩, fun systemId item n => ?_⟩
  · rintro name ⟨⟨e, he, hkey⟩, a, ha, hname⟩
    exact hg.apart e he a ha (hkey.trans hname.symm)
  · rintro ⟨b, hb, hname⟩
    exact hg.direct ha hb hname.symm
  · exact wp_mono (evaluateItem_wp hg) (fun _ _ _ _ => trivial) fun _ _ _ h => h.2

end Registry

end EdgeNode
