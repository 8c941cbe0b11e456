import EdgeNode.Proofs.Cache
import EdgeNode.Proofs.Registry

/-!
# Where readings are stored

A reading goes under the key and channel its declaration suits. Whatever is written between two
readings with one declaration (`Move`), the series of the first stays one that the declaration suits
(`Placed`): a key that had no definition keeps its own series, and an alias leads elsewhere only
where the device has none under it.
-/

namespace EdgeNode

open Tx

namespace Registry

variable {l l' : LedgerDb} {g g' : RegistryDb}

/-! ## What is written -/

def SameColumns (l l' : LedgerDb) : Prop :=
  ∃ f : ℕ × SeriesRow → SeriesRow, l'.series.rows = l.series.rows.map (fun r => (r.1, f r))
    ∧ ∀ r, (f r).columns = r.2.columns

theorem SameColumns.of_eq (h : l'.series = l.series) : SameColumns l l' :=
  ⟨Prod.snd, by rw [h]; simp, fun _ => rfl⟩

structure NewSeries (l l' : LedgerDb) (g : RegistryDb) (row : SeriesRow) : Prop where
  added : Collector.SeriesAdded l l' row
  name : g.HasAlias row.measurementKey → HasSeries l row.systemId row.measurementKey
  grammar : EdgeNode.validateMeasurementKey row.measurementKey = .ok ()

/-- What is written to the series and the registry, one change at a time. -/
inductive Move : LedgerDb × RegistryDb → LedgerDb × RegistryDb → Prop
  | extend {l : LedgerDb} {g g' : RegistryDb} (h : g.Extends g') : Move (l, g) (l, g')
  | beside {l l' : LedgerDb} {g : RegistryDb} (h : SameColumns l l') : Move (l, g) (l', g)
  | series {l l' : LedgerDb} {g : RegistryDb} (row : SeriesRow) (h : NewSeries l l' g row) :
      Move (l, g) (l', g)

abbrev Moves : LedgerDb × RegistryDb → LedgerDb × RegistryDb → Prop := Relation.ReflTransGen Move

theorem SameColumns.mem (h : SameColumns l l') {r' : ℕ × SeriesRow} (hr' : r' ∈ l'.series.rows) :
    ∃ r ∈ l.series.rows, r.1 = r'.1 ∧ r.2.columns = r'.2.columns := by
  obtain ⟨f, hrows, hf⟩ := h
  rw [hrows, List.mem_map] at hr'
  obtain ⟨r, hr, rfl⟩ := hr'
  exact ⟨r, hr, rfl, (hf r).symm⟩

theorem SameColumns.mem_image (h : SameColumns l l') {r : ℕ × SeriesRow} (hr : r ∈ l.series.rows) :
    ∃ row, (r.1, row) ∈ l'.series.rows ∧ row.columns = r.2.columns := by
  obtain ⟨f, hrows, hf⟩ := h
  exact ⟨f r, hrows ▸ List.mem_map_of_mem hr, hf r⟩

theorem SameColumns.findSeries (h : SameColumns l l') (systemId : SystemId) (key : String)
    (channel : ℤ) (variant : String) :
    (Ledger.findSeries l' systemId key channel variant).map Prod.fst
      = (Ledger.findSeries l systemId key channel variant).map Prod.fst := by
  obtain ⟨f, hrows, hf⟩ := h
  have hsame : (fun r : ℕ × SeriesRow => (f r).hasKey systemId key channel variant)
      = fun r => r.2.hasKey systemId key channel variant := by
    funext r
    rw [Bool.eq_iff_iff, SeriesRow.hasKey_iff, SeriesRow.hasKey_iff, hf r]
  unfold Ledger.findSeries
  rw [hrows, List.find?_map, Option.map_map]
  simp only [Function.comp_def, hsame]

theorem SameColumns.fits (h : SameColumns l l') (hdevices : l'.devices = l.devices)
    {cache : ResolutionCache} (hfits : Collector.Fits l cache) : Collector.Fits l' cache where
  devices hardwareId hit hhit := by
    have := hfits.devices hardwareId hit hhit
    unfold Ledger.aliveByHardwareId at this ⊢
    rwa [hdevices]
  series systemId key channel variant id hid := by
    rw [h.findSeries]
    exact hfits.series _ _ _ _ _ hid

theorem columns_eq {row row' : SeriesRow} (h : row.columns = row'.columns) :
    row.systemId = row'.systemId ∧ row.measurementKey = row'.measurementKey
      ∧ row.channelIndex = row'.channelIndex ∧ row.variant = row'.variant := by
  simpa [SeriesRow.columns] using h

theorem SameColumns.hasSeries (h : SameColumns l l') {systemId : SystemId} {key : String} :
    HasSeries l' systemId key ↔ HasSeries l systemId key := by
  constructor
  · rintro ⟨r', hr', hdevice, hkey⟩
    obtain ⟨r, hr, -, hcolumns⟩ := h.mem hr'
    obtain ⟨hdevice', hkey', -, -⟩ := columns_eq hcolumns
    exact ⟨r, hr, hdevice'.trans hdevice, hkey'.trans hkey⟩
  · rintro ⟨r, hr, hdevice, hkey⟩
    obtain ⟨row, hrow, hcolumns⟩ := h.mem_image hr
    obtain ⟨hdevice', hkey', -, -⟩ := columns_eq hcolumns
    exact ⟨_, hrow, hdevice'.trans hdevice, hkey'.trans hkey⟩

theorem Move.wellFormed {s s' : LedgerDb × RegistryDb} (h : Move s s') (hg : s.2.WellFormed) :
    s'.2.WellFormed := by
  cases h with
  | extend h => exact hg.extends h
  | beside _ => exact hg
  | series _ _ => exact hg

theorem Moves.wellFormed {s s' : LedgerDb × RegistryDb} (h : Moves s s') (hg : s.2.WellFormed) :
    s'.2.WellFormed := by
  induction h with
  | refl => exact hg
  | tail _ h ih => exact h.wellFormed ih

structure Regular (l : LedgerDb) : Prop where
  unique : l.UniqueSeries
  grammar : ∀ r ∈ l.series.rows, EdgeNode.validateMeasurementKey r.2.measurementKey = .ok ()

theorem Move.regular {s s' : LedgerDb × RegistryDb} (h : Move s s') (hl : Regular s.1) :
    Regular s'.1 := by
  cases h with
  | extend _ => exact hl
  | beside h =>
    obtain ⟨f, hrows, hf⟩ := h
    refine ⟨fun r hr r' hr' hcolumns => ?_, fun r hr => ?_⟩
    · dsimp only at hr hr'
      rw [hrows, List.mem_map] at hr hr'
      obtain ⟨r₀, hr₀, rfl⟩ := hr
      obtain ⟨r₁, hr₁, rfl⟩ := hr'
      rw [hl.unique r₀ hr₀ r₁ hr₁ ((hf r₀).symm.trans (hcolumns.trans (hf r₁)))]
    · dsimp only at hr
      rw [hrows, List.mem_map] at hr
      obtain ⟨r₀, hr₀, rfl⟩ := hr
      rw [(columns_eq (hf r₀)).2.1]
      exact hl.grammar r₀ hr₀
  | series row h =>
    refine ⟨fun r hr r' hr' hcolumns => ?_, fun r hr => ?_⟩
    · dsimp only at hr hr'
      rw [h.added.1, List.mem_append, List.mem_singleton] at hr hr'
      rcases hr with hr | rfl <;> rcases hr' with hr' | rfl
      · exact hl.unique r hr r' hr' hcolumns
      · exact absurd hcolumns (h.added.2 r hr)
      · exact absurd hcolumns.symm (h.added.2 r' hr')
      · rfl
    · dsimp only at hr
      rw [h.added.1, List.mem_append, List.mem_singleton] at hr
      rcases hr with hr | rfl
      · exact hl.grammar r hr
      · exact h.grammar

theorem Moves.regular {s s' : LedgerDb × RegistryDb} (h : Moves s s') (hl : Regular s.1) :
    Regular s'.1 := by
  induction h with
  | refl => exact hl
  | tail _ h ih => exact h.regular ih

/-! ## Readings stay where their declaration suits -/

end Registry

structure StoredItem where
  systemId : SystemId
  measurementKey : String
  channelIndex : Option ℕ
  variant : String
  seriesId : ℕ
  deriving DecidableEq, Repr

namespace Registry

variable {l l' : LedgerDb} {g g' : RegistryDb} {i j : StoredItem}

def Placed (l : LedgerDb) (g : RegistryDb) (i : StoredItem) : Prop :=
  ∃ row, (i.seriesId, row) ∈ l.series.rows ∧ row.systemId = i.systemId ∧ row.variant = i.variant
    ∧ Suits l g i.systemId i.measurementKey i.channelIndex row.measurementKey row.channelIndex

theorem channelSuits_declared (mode : ChannelMode) (declared : Option ℕ) :
    ChannelSuits mode declared (declaredChannel declared) := by
  unfold ChannelSuits
  split_ifs with h
  · rcases h.2 with rfl | rfl
    · exact .inl rfl
    · exact .inr rfl
  · rfl

theorem Suits.mono {systemId : SystemId} {key resolvedKey : String} {declared : Option ℕ}
    {channel : ℤ} (h : Suits l g systemId key declared resolvedKey channel)
    (hentries : ∀ e ∈ g.entries, e ∈ g'.entries) (haliases : ∀ a ∈ g.aliases, a ∈ g'.aliases)
    (hknown : g'.Resolves key → g.Resolves key)
    (hown : HasSeries l' systemId key ↔ HasSeries l systemId key) :
    Suits l' g' systemId key declared resolvedKey channel := by
  cases h with
  | unknown hunknown hcatalog => exact .unknown (fun h => hunknown (hknown h)) hcatalog
  | defined e hdefined hchannel =>
    refine .defined e ?_ hchannel
    cases hdefined with
    | entry _ he hkey => exact .entry e (hentries e he) hkey
    | own a _ ha he hname hkey h =>
      exact .own a e (haliases a ha) (hentries e he) hname hkey (hown.2 h)
    | canonical a _ ha he hname hkey h =>
      exact .canonical a e (haliases a ha) (hentries e he) hname hkey fun h' => h (hown.1 h')

theorem Defined.resolves {systemId : SystemId} {key resolvedKey : String} {e : EntryRow}
    (h : Defined l g systemId key e resolvedKey) : g.Resolves key := by
  cases h with
  | entry _ he hkey => exact .inl ⟨e, he, hkey⟩
  | own a _ ha _ hname _ _ => exact .inr ⟨a, ha, hname⟩
  | canonical a _ ha _ hname _ _ => exact .inr ⟨a, ha, hname⟩

theorem Suits.extends {systemId : SystemId} {key resolvedKey : String} {declared : Option ℕ}
    {channel : ℤ} (h : Suits l g systemId key declared resolvedKey channel) (hext : g.Extends g')
    (hseries : resolvedKey = key → HasSeries l systemId key) :
    Suits l g' systemId key declared resolvedKey channel := by
  cases hext with
  | entry e hnew hvalid =>
    have he : e ∈ g.entries ++ [e] := by simp
    by_cases hkey : e.measurementKey = key
    · cases h with
      | unknown hunknown _ => exact .defined e (.entry e he hkey) (channelSuits_declared _ _)
      | defined _ hdefined _ => exact absurd (hkey ▸ hdefined.resolves) hnew
    · refine h.mono (fun _ he => List.mem_append_left _ he) (fun _ => id) ?_ Iff.rfl
      rintro (⟨e', he', hkey'⟩ | halias)
      · rcases List.mem_append.1 he' with he' | he'
        · exact .inl ⟨e', he', hkey'⟩
        · obtain rfl := List.mem_singleton.1 he'
          exact absurd hkey' hkey
      · exact .inr halias
  | aliased a hnew htarget =>
    have ha : a ∈ g.aliases ++ [a] := by simp
    by_cases hname : a.aliasName = key
    · cases h with
      | unknown hunknown _ =>
        obtain ⟨e, he, hkey⟩ := htarget
        exact .defined e (.own a e ha he hname hkey (hseries rfl)) (channelSuits_declared _ _)
      | defined _ hdefined _ => exact absurd (hname ▸ hdefined.resolves) hnew
    · refine h.mono (fun _ => id) (fun _ ha => List.mem_append_left _ ha) ?_ Iff.rfl
      rintro (hentry | ⟨a', ha', hname'⟩)
      · exact .inl hentry
      · rcases List.mem_append.1 ha' with ha' | ha'
        · exact .inr ⟨a', ha', hname'⟩
        · obtain rfl := List.mem_singleton.1 ha'
          exact absurd hname' hname

theorem Suits.newSeries {systemId : SystemId} {key resolvedKey : String} {declared : Option ℕ}
    {channel : ℤ} {row : SeriesRow} (h : Suits l g systemId key declared resolvedKey channel)
    (hnew : NewSeries l l' g row) : Suits l' g systemId key declared resolvedKey channel := by
  have hgrow : HasSeries l systemId key → HasSeries l' systemId key := by
    rintro ⟨r, hr, hr'⟩
    exact ⟨r, by rw [hnew.added.1]; exact List.mem_append_left _ hr, hr'⟩
  cases h with
  | unknown hunknown hcatalog => exact .unknown hunknown hcatalog
  | defined e hdefined hchannel =>
    refine .defined e ?_ hchannel
    cases hdefined with
    | entry _ he hkey => exact .entry e he hkey
    | own a _ ha he hname hkey h => exact .own a e ha he hname hkey (hgrow h)
    | canonical a _ ha he hname hkey h =>
      refine .canonical a e ha he hname hkey ?_
      rintro ⟨r, hr, hdevice, hrkey⟩
      rw [hnew.added.1, List.mem_append, List.mem_singleton] at hr
      rcases hr with hr | rfl
      · exact h ⟨r, hr, hdevice, hrkey⟩
      · obtain ⟨r, hr, hdevice', hkey'⟩ := hnew.name ⟨a, ha, hname.trans hrkey.symm⟩
        exact h ⟨r, hr, hdevice'.trans hdevice, hkey'.trans hrkey⟩

theorem Move.placed {s s' : LedgerDb × RegistryDb} (h : Move s s') (hi : Placed s.1 s.2 i) :
    Placed s'.1 s'.2 i := by
  obtain ⟨row, hrow, hdevice, hvariant, hsuits⟩ := hi
  cases h with
  | extend h =>
    exact ⟨row, hrow, hdevice, hvariant, hsuits.extends h fun hkey => ⟨_, hrow, hdevice, hkey⟩⟩
  | beside h =>
    obtain ⟨row', hrow', hcolumns⟩ := h.mem_image hrow
    obtain ⟨hdevice', hkey', hchannel', hvariant'⟩ := columns_eq hcolumns
    refine ⟨row', hrow', hdevice'.trans hdevice, hvariant'.trans hvariant, ?_⟩
    rw [hkey', hchannel']
    exact hsuits.mono (fun _ => id) (fun _ => id) id h.hasSeries
  | series new h =>
    exact ⟨row, by rw [h.added.1]; exact List.mem_append_left _ hrow, hdevice, hvariant,
      hsuits.newSeries h⟩

theorem Moves.placed {s s' : LedgerDb × RegistryDb} (h : Moves s s') (hi : Placed s.1 s.2 i) :
    Placed s'.1 s'.2 i := by
  induction h with
  | refl => exact hi
  | tail _ h ih => exact h.placed ih

def BothForms (l : LedgerDb) (systemId : SystemId) (key variant : String) : Prop :=
  ∀ channel, channel = channelNa ∨ channel = 0 →
    ∃ r ∈ l.series.rows, r.2.columns = (systemId, key, channel, variant)

theorem Suits.key_eq {systemId : SystemId} {key resolvedKey resolvedKey' : String}
    {declared : Option ℕ} {channel channel' : ℤ} (hg : g.WellFormed)
    (h : Suits l g systemId key declared resolvedKey channel)
    (h' : Suits l g systemId key declared resolvedKey' channel') :
    resolvedKey = resolvedKey' ∧ (channel = channel' ∨ (channel = channelNa ∨ channel = 0)
      ∧ (channel' = channelNa ∨ channel' = 0)) := by
  cases h with
  | unknown hunknown _ =>
    cases h' with
    | unknown _ _ => exact ⟨rfl, .inl rfl⟩
    | defined _ hdefined' _ => exact absurd hdefined'.resolves hunknown
  | defined e hdefined hchannel =>
    cases h' with
    | unknown hunknown _ => exact absurd hdefined.resolves hunknown
    | defined e' hdefined' hchannel' =>
      have hsame : e = e' ∧ resolvedKey = resolvedKey' := by
        cases hdefined with
        | entry _ he hkey =>
          cases hdefined' with
          | entry _ he' hkey' => exact ⟨hg.entry_unique he he' (hkey.trans hkey'.symm), rfl⟩
          | own a _ ha _ hname _ _ => exact absurd (hkey.trans hname.symm) (hg.apart e he a ha)
          | canonical a _ ha _ hname _ _ => exact absurd (hkey.trans hname.symm) (hg.apart e he a ha)
        | own a _ ha he hname hkey hown =>
          cases hdefined' with
          | entry _ he' hkey' => exact absurd (hkey'.trans hname.symm) (hg.apart e' he' a ha)
          | own a' _ ha' he' hname' hkey' _ =>
            obtain rfl := hg.alias_unique ha ha' (hname.trans hname'.symm)
            exact ⟨hg.entry_unique he he' (hkey.trans hkey'.symm), rfl⟩
          | canonical _ _ _ _ _ _ hown' => exact absurd hown hown'
        | canonical a _ ha he hname hkey hown =>
          cases hdefined' with
          | entry _ he' hkey' => exact absurd (hkey'.trans hname.symm) (hg.apart e' he' a ha)
          | own _ _ _ _ _ _ hown' => exact absurd hown' hown
          | canonical a' _ ha' he' hname' hkey' _ =>
            obtain rfl := hg.alias_unique ha ha' (hname.trans hname'.symm)
            obtain rfl := hg.entry_unique he he' (hkey.trans hkey'.symm)
            exact ⟨rfl, rfl⟩
      obtain ⟨rfl, rfl⟩ := hsame
      refine ⟨rfl, ?_⟩
      unfold ChannelSuits at hchannel hchannel'
      split_ifs at hchannel hchannel'
      · exact .inr ⟨hchannel, hchannel'⟩
      · exact .inl (hchannel.trans hchannel'.symm)

/-- Readings with one declaration are in one series, unless their measurement has both forms. -/
theorem Placed.series_eq (hg : g.WellFormed) (hl : Regular l) (hi : Placed l g i)
    (hj : Placed l g j) (hdevice : i.systemId = j.systemId)
    (hkey : i.measurementKey = j.measurementKey) (hchannel : i.channelIndex = j.channelIndex)
    (hvariant : i.variant = j.variant)
    (hforms : ∀ r ∈ l.series.rows, r.1 = i.seriesId →
      ¬BothForms l i.systemId r.2.measurementKey i.variant) :
    i.seriesId = j.seriesId := by
  obtain ⟨row, hrow, hrowdevice, hrowvariant, hsuits⟩ := hi
  obtain ⟨row', hrow', hrowdevice', hrowvariant', hsuits'⟩ := hj
  rw [← hdevice, ← hkey, ← hchannel] at hsuits'
  obtain ⟨hresolved, hchannels⟩ := hsuits.key_eq hg hsuits'
  have hcolumns : row.columns
      = (i.systemId, row.measurementKey, row.channelIndex, i.variant) := by
    simp [SeriesRow.columns, hrowdevice, hrowvariant]
  have hcolumns' : row'.columns
      = (i.systemId, row.measurementKey, row'.channelIndex, i.variant) := by
    simp [SeriesRow.columns, hrowdevice', hrowvariant', hresolved, hdevice, hvariant]
  suffices hsame : row.channelIndex = row'.channelIndex by
    have := hl.unique _ hrow _ hrow' (by rw [hcolumns, hcolumns', hsame])
    exact congrArg Prod.fst this
  by_contra hne
  have hforms' := hchannels.resolve_left hne
  refine hforms _ hrow rfl fun channel hform => ?_
  -- The two channels are different ones of the two forms, so each form is one of the two rows'.
  have hwhich : channel = row.channelIndex ∨ channel = row'.channelIndex := by
    unfold channelNa at hform hforms'
    omega
  rcases hwhich with rfl | rfl
  · exact ⟨_, hrow, hcolumns⟩
  · exact ⟨_, hrow', hcolumns'⟩

end Registry

end EdgeNode
