import EdgeNode.Proofs.SeriesRun

/-!
# Series under keys without a definition

A series of an unknown key is quarantined until the key is defined. An alias ends the quarantine of
its own series, and the collector enables only keys of the catalogue. A custom entry ends no
quarantine: its key must have no series that waits (`Releases`).
-/

namespace EdgeNode

open Tx

namespace Registry

variable {l l' : LedgerDb} {g : RegistryDb} {key : String} {db db' : LedgerDb × RegistryDb}

def Waits (row : SeriesRow) : Prop :=
  row.quarantined = true ∧ row.quarantineReason = some "unknown_key"

instance (row : SeriesRow) : Decidable (Waits row) := inferInstanceAs (Decidable (_ ∧ _))

def Clean (l : LedgerDb) (g : RegistryDb) : Prop :=
  ∀ r ∈ l.series.rows, Waits r.2 → ¬g.Resolves r.2.measurementKey

def Awaiting (db : LedgerDb × RegistryDb) : Prop :=
  ∀ r ∈ db.1.series.rows, Waits r.2 →
    ¬db.2.Resolves r.2.measurementKey ∧ standardCatalog.find r.2.measurementKey = none

theorem Awaiting.clean (h : Awaiting db) : Clean db.1 db.2 := fun r hr hwaits => (h r hr hwaits).1

theorem Awaiting.after (h : Awaiting db)
    (hrows : ∀ r ∈ db'.1.series.rows, Waits r.2 → r ∈ db.1.series.rows)
    (hresolves : ∀ r ∈ db'.1.series.rows, Waits r.2 → standardCatalog.find r.2.measurementKey = none →
      db'.2.Resolves r.2.measurementKey → db.2.Resolves r.2.measurementKey) : Awaiting db' := by
  intro r hr hwaits
  obtain ⟨hunknown, hcatalog⟩ := h r (hrows r hr hwaits) hwaits
  exact ⟨fun hresolved => hunknown (hresolves r hr hwaits hcatalog hresolved), hcatalog⟩

theorem resolves_entry {row : EntryRow}
    (h : RegistryDb.Resolves { g with entries := g.entries ++ [row] } key) :
    g.Resolves key ∨ row.measurementKey = key := by
  rcases h with ⟨e, he, hkey⟩ | halias
  · rcases List.mem_append.1 he with he | he
    · exact .inl (.inl ⟨e, he, hkey⟩)
    · obtain rfl := List.mem_singleton.1 he
      exact .inr hkey
  · exact .inl (.inr halias)

theorem resolves_alias {row : AliasRow}
    (h : RegistryDb.Resolves { g with aliases := g.aliases ++ [row] } key) :
    g.Resolves key ∨ row.aliasName = key := by
  rcases h with hentry | ⟨a, ha, hname⟩
  · exact .inl (.inl hentry)
  · rcases List.mem_append.1 ha with ha | ha
    · exact .inl (.inr ⟨a, ha, hname⟩)
    · obtain rfl := List.mem_singleton.1 ha
      exact .inr hname

theorem Observation.awaiting (hstep : Observation db db') (h : Awaiting db) : Awaiting db' := by
  cases hstep with
  | enable row hnew hvalid hcatalog =>
    refine h.after (fun r hr _ => hr) fun r hr _ hnone hresolved => ?_
    rcases resolves_entry hresolved with hresolved | hkey
    · exact hresolved
    · rw [hkey, hnone] at hcatalog
      simp at hcatalog
  | beside hseries =>
    exact h.after (fun r hr _ => hseries ▸ hr) fun r _ _ _ hresolved => hresolved
  | series row hnew hreason =>
    intro r hr hwaits
    dsimp only at hr
    rw [hnew.added.1, List.mem_append, List.mem_singleton] at hr
    rcases hr with hr | rfl
    · exact h r hr hwaits
    · exact hreason hwaits.2

theorem Observations.awaiting (hsteps : Observations db db') (h : Awaiting db) : Awaiting db' := by
  induction hsteps with
  | refl => exact h
  | tail _ hstep ih => exact hstep.awaiting ih

theorem Marked.waits (h : Marked l l') {r : ℕ × SeriesRow} (hr : r ∈ l'.series.rows)
    (hwaits : Waits r.2) : r ∈ l.series.rows := h.kept hr hwaits.2

theorem Marked.settled (h : Marked l l') (hsettled : Settled l key) : Settled l' key :=
  fun r hr hkey hquarantined hreason =>
    hsettled r (h.kept hr hreason) hkey hquarantined hreason

theorem Enabled.awaiting (h : Enabled key db db') (hdb : Awaiting db)
    (hkey : Settled db.1 key ∨ (standardCatalog.find key).isSome = true) : Awaiting db' := by
  have hmarked := Marked.of_noted h.ledger
  refine hdb.after (fun r hr => hmarked.waits hr) fun r hr hwaits hnone hresolved => ?_
  rcases h.registry with hsame | ⟨-, -, row, hrow, hregistry⟩
  · rwa [hsame] at hresolved
  · rw [hregistry] at hresolved
    rcases resolves_entry hresolved with hresolved | hsame
    · exact hresolved
    · rw [hrow] at hsame
      rcases hkey with hsettled | hcatalog
      · exact absurd hwaits.2 (hsettled r (hmarked.waits hr hwaits) hsame.symm hwaits.1)
      · rw [hsame, hnone] at hcatalog
        simp at hcatalog

theorem Linked.awaiting (h : Linked key db db') (hdb : Awaiting db) (hsettled : Settled db'.1 key) :
    Awaiting db' := by
  refine hdb.after (fun r hr => h.ledger.waits hr) fun r hr hwaits _ hresolved => ?_
  rcases h.registry with hsame | ⟨-, row, hrow, -, hregistry⟩
  · rwa [hsame] at hresolved
  · rw [hregistry] at hresolved
    rcases resolves_alias hresolved with hresolved | hsame
    · exact hresolved
    · rw [hrow] at hsame
      exact absurd hwaits.2 (hsettled r hr hsame.symm hwaits.1)

def CustomSettled (l : LedgerDb) (params : Json) : Prop :=
  match Ops.resolution params with
  | .ok (.custom spec) => Settled l spec.measurementKey
  | _ => True

instance (l : LedgerDb) (key : String) : Decidable (Settled l key) :=
  inferInstanceAs (Decidable (∀ r ∈ l.series.rows, _ → _ → _))

instance (l : LedgerDb) (params : Json) : Decidable (CustomSettled l params) :=
  match h : Ops.resolution params with
  | .ok (.custom spec) =>
    decidable_of_iff (Settled l spec.measurementKey) (by rw [CustomSettled, h])
  | .ok (.aliasTo _) => isTrue (by rw [CustomSettled, h]; trivial)
  | .error _ => isTrue (by rw [CustomSettled, h]; trivial)

theorem CustomSettled.marked {params : Json} (h : CustomSettled l params) (hmarked : Marked l l') :
    CustomSettled l' params := by
  unfold CustomSettled at h ⊢
  split at h
  · exact hmarked.settled h
  · trivial

end Registry

namespace Site

open Collector (tables)
open Registry (Awaiting CustomSettled Clean)

variable {c : Collector.Components RegistryDb} {clock : Clock} {s s' : Site}

/-- A resolution to a custom entry names a key that no series waits for, and an operation that fails
can be rolled back. -/
def Releases (s : Site) : Event → Prop
  | .dispatch request savepoint _ =>
    savepoint.rollbackTo = false ∧ CustomSettled s.collector.db.ledger request.params
  | _ => True

instance (s : Site) : ∀ e : Event, Decidable (s.Releases e)
  | .dispatch _ _ _ => inferInstanceAs (Decidable (_ ∧ _))
  | .submit _ _ | .enable _ _ | .defineAlias _ _ _ _ _ | .mutate _ _ => isTrue trivial

def sharedEvents : List Event :=
  [registered, observed "e1" "door", observed "e2" "custom.door", resolvedTo "door" "custom.door"]

end Site

end EdgeNode
