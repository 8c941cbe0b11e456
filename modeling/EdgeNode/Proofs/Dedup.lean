import EdgeNode.Collector.Dedup

/-!
# Claims of a bounded table

What one claim does to the table, said once for every use of it.

As long as nobody comes back to an envelope after its row may have gone, no row is ever renewed, so
that the table holds its claims in the order they were made and evicts the first of them. What has
gone is then older than the age limit or followed by as many claims as a row limit, and a repeated
claim that is neither finds its row.
-/

namespace EdgeNode

open Tx

structure DedupBounds.Positive (bounds : DedupBounds) : Prop where
  global : 0 < bounds.globalRows
  principal : 0 < bounds.principalRows
  age : 0 ≤ bounds.maxAgeMs

theorem DedupLimits.positive (limits : DedupLimits) : limits.toDedupBounds.Positive :=
  ⟨limits.valid.1, limits.valid.2.1, limits.valid.2.2.2.le⟩

namespace Dedup

variable {bounds : DedupBounds} {limits : DedupLimits} {claims rows rows' : DedupTable}
  {principalId envelopeId : String} {nowMs : ℤ} {r x : DedupRow} {n : ℕ}

/-! ## Making room -/

theorem deleteOldest_sublist (rows : DedupTable) (p : DedupRow → Bool) :
    (deleteOldest rows p).Sublist rows := by
  unfold deleteOldest
  split
  · exact List.erase_sublist
  · exact .refl _

theorem deleteOldest_shrinks {p : DedupRow → Bool} (h : 0 < rows.countP p) :
    (deleteOldest rows p).length < rows.length := by
  obtain ⟨r, hr, hp⟩ := List.countP_pos_iff.1 h
  unfold deleteOldest
  split
  · rename_i victim hvictim
    have hmem : victim ∈ rows := List.mem_of_mem_filter (firstBy_mem hvictim)
    rw [List.length_erase_of_mem hmem]
    exact Nat.sub_one_lt (List.ne_nil_of_mem hmem ∘ List.length_eq_zero_iff.1)
  · rename_i hnone
    have hempty : rows.filter p = [] := firstBy_eq_none.1 hnone
    exact absurd (List.mem_filter.2 ⟨hr, hp⟩) (by simp [hempty])

inductive Evicted (bounds : DedupBounds) (principalId : String) (rows : DedupTable) :
    DedupTable → Prop
  | none : Evicted bounds principalId rows rows
  | principal {rows' : DedupTable} : Evicted bounds principalId rows rows' →
      bounds.principalRows ≤ principalCount rows' principalId →
      Evicted bounds principalId rows (deleteOldest rows' fun r => r.senderId == principalId)
  | all {rows' : DedupTable} : Evicted bounds principalId rows rows' →
      bounds.globalRows ≤ rows'.length →
      Evicted bounds principalId rows (deleteOldest rows' fun _ => true)

theorem Evicted.sublist (h : Evicted bounds principalId rows rows') : rows'.Sublist rows := by
  induction h with
  | none => exact .refl _
  | principal _ _ ih | all _ _ ih => exact (deleteOldest_sublist _ _).trans ih

def HasRoom (bounds : DedupBounds) (principalId : String) (rows : DedupTable) : Prop :=
  principalCount rows principalId < bounds.principalRows ∧ rows.length < bounds.globalRows

theorem evict_sure (hb : bounds.Positive) (h : Evicted bounds principalId rows rows') :
    sure (evict bounds principalId)
      (fun r rows'' n' => r.elim
        (fun _ => (Evicted bounds principalId rows rows'' ∧ n' = n) ∧ rows''.length < rows'.length)
        fun _ => (Evicted bounds principalId rows rows'' ∧ HasRoom bounds principalId rows'')
          ∧ n' = n)
      (fun _ _ _ => False) rows' n := by
  have hglobal := hb.global
  have hprincipal := hb.principal
  refine sure_bind (sure_query (sure_bind (sure_query ?_)))
  split_ifs with hroom hfull
  · exact sure_pure ⟨⟨h, hroom⟩, rfl⟩
  · refine sure_bind (sure_exec (sure_pure ⟨⟨h.principal hfull, rfl⟩, deleteOldest_shrinks ?_⟩))
    unfold principalCount at hfull
    omega
  · refine sure_bind (sure_exec (sure_pure ⟨⟨h.all (by omega), rfl⟩, deleteOldest_shrinks ?_⟩))
    rw [List.countP_true]
    omega

theorem evictLoop_sure (hb : bounds.Positive) :
    sure (Tx.repeatUntil (fun _ => evict bounds principalId) .sqlite (rows.length + 1) ())
      (fun _ kept n' => (Evicted bounds principalId rows kept ∧ HasRoom bounds principalId kept)
        ∧ n' = n)
      (fun _ _ _ => False) rows n := by
  refine sure_repeatUntil (μ := List.length)
    (I := fun _ rows' n' => Evicted bounds principalId rows rows' ∧ n' = n)
    (fun _ rows' n' h => ?_) ⟨.none, rfl⟩ (Nat.lt_succ_self _)
  rw [h.2]
  exact evict_sure hb h.1

/-! ## One claim -/

def DistinctKeys (rows : DedupTable) : Prop :=
  rows.Pairwise fun r r' => r.isFor r'.senderId r'.envelopeId = false

def Outcome (bounds : DedupBounds) (x : DedupRow) (rows : DedupTable) :
    Bool → DedupTable → Prop
  | false, rows' => rows' = rows ∧ ∃ r ∈ rows, r.isFor x.senderId x.envelopeId
      ∧ I64.saturatingSub x.receivedAt bounds.maxAgeMs ≤ r.receivedAt
  | true, rows' =>
    (∀ r ∈ rows, r.isFor x.senderId x.envelopeId →
      r.receivedAt < I64.saturatingSub x.receivedAt bounds.maxAgeMs) ∧
    ((∃ l r m, rows = l ++ r :: m ∧ r.isFor x.senderId x.envelopeId ∧ rows' = l ++ x :: m)
      ∨ (∀ r ∈ rows, r.isFor x.senderId x.envelopeId = false)
        ∧ ∃ kept, Evicted bounds x.senderId rows kept ∧ HasRoom bounds x.senderId kept
          ∧ rows' = kept ++ [x])

def OutcomeOf (K : DedupTable → Prop) (bounds : DedupBounds) (x : DedupRow) (rows : DedupTable) :
    Bool → DedupTable → Prop
  | false, rows' => rows' = rows ∧ ∃ r ∈ rows, r.isFor x.senderId x.envelopeId
      ∧ I64.saturatingSub x.receivedAt bounds.maxAgeMs ≤ r.receivedAt
  | true, rows' =>
    (∀ r ∈ rows, r.isFor x.senderId x.envelopeId →
      r.receivedAt < I64.saturatingSub x.receivedAt bounds.maxAgeMs) ∧
    ((∃ l r m, rows = l ++ r :: m ∧ r.isFor x.senderId x.envelopeId ∧ rows' = l ++ x :: m)
      ∨ (∀ r ∈ rows, r.isFor x.senderId x.envelopeId = false)
        ∧ ∃ kept, K kept ∧ rows' = kept ++ [x])

theorem refresh_of_unclaimed (h : ∀ r ∈ rows, r.isFor principalId envelopeId = false) :
    refresh rows principalId envelopeId nowMs = rows :=
  (List.map_congr_left fun r hr => by simp [h r hr]).trans (List.map_id' rows)

variable (nowMs) in
theorem renewable_of_unclaimed (h : ∀ r ∈ rows, r.isFor principalId envelopeId = false) :
    rows.countP (fun r => r.isFor principalId envelopeId && r.receivedAt < nowMs) = 0 :=
  List.countP_eq_zero.2 fun r hr => by simp [h r hr]

theorem isFor_iff {row : DedupRow} :
    row.isFor principalId envelopeId ↔ row.senderId = principalId ∧ row.envelopeId = envelopeId := by
  simp [DedupRow.isFor]

theorem DistinctKeys.around {l m : DedupTable} (h : DistinctKeys (l ++ r :: m))
    (hr : r.isFor principalId envelopeId) :
    ∀ y ∈ l ++ m, y.isFor principalId envelopeId = false := by
  obtain ⟨rfl, rfl⟩ := isFor_iff.1 hr
  obtain ⟨-, hm, hl⟩ := List.pairwise_append.1 h
  intro y hy
  rcases List.mem_append.1 hy with hy | hy
  · exact hl y hy r List.mem_cons_self
  · have hne := List.rel_of_pairwise_cons hm hy
    rw [Bool.eq_false_iff, Ne, isFor_iff] at hne ⊢
    exact fun heq => hne ⟨heq.1.symm, heq.2.symm⟩

theorem refresh_of_claimed {l m : DedupTable} (h : DistinctKeys (l ++ r :: m))
    (hr : r.isFor principalId envelopeId) (hold : r.receivedAt < nowMs) :
    refresh (l ++ r :: m) principalId envelopeId nowMs
        = l ++ ⟨principalId, envelopeId, nowMs⟩ :: m
      ∧ (l ++ r :: m).countP (fun r => r.isFor principalId envelopeId && r.receivedAt < nowMs)
        = 1 := by
  have hne := h.around hr
  have hl : refresh l principalId envelopeId nowMs = l :=
    refresh_of_unclaimed fun y hy => hne y (List.mem_append_left _ hy)
  have hm : refresh m principalId envelopeId nowMs = m :=
    refresh_of_unclaimed fun y hy => hne y (List.mem_append_right _ hy)
  have hnone := renewable_of_unclaimed nowMs hne
  obtain ⟨rfl, rfl⟩ := isFor_iff.1 hr
  constructor
  · unfold refresh at hl hm ⊢
    rw [List.map_append, List.map_cons, hl, hm, hr]
    simp [hold]
  · rw [List.countP_append] at hnone
    rw [List.countP_append, List.countP_cons, hr]
    simp only [Bool.true_and, decide_eq_true_eq, if_pos hold]
    omega

variable (principalId envelopeId) in
theorem tryClaimEnvelopeBoundedAt_sure_of {K : DedupTable → Prop} (hb : bounds.Positive)
    (hnow : I64.minValue ≤ nowMs) (hkeys : DistinctKeys rows)
    (hloop : ∀ n, sure (Tx.repeatUntil (fun _ => evict bounds principalId) .sqlite (rows.length + 1) ())
      (fun _ kept n' => (K kept ∧ kept.Sublist rows) ∧ n' = n) (fun _ _ _ => False) rows n) :
    sure (tryClaimEnvelopeBoundedAt principalId envelopeId nowMs bounds)
      (fun claimed rows' n' =>
        OutcomeOf K bounds ⟨principalId, envelopeId, nowMs⟩ rows claimed rows' ∧ n' = n)
      (fun _ _ _ => False) rows n := by
  refine sure_bind (sure_query ?_)
  split_ifs with hexists
  · obtain ⟨r, hr, hfor⟩ := List.any_eq_true.1 hexists
    rw [Bool.and_eq_true, decide_eq_true_eq] at hfor
    exact sure_pure ⟨⟨rfl, r, hr, hfor.1, hfor.2⟩, rfl⟩
  · have hold : ∀ r ∈ rows, r.isFor principalId envelopeId →
        r.receivedAt < I64.saturatingSub nowMs bounds.maxAgeMs := by
      intro r hr hfor
      by_contra hle
      exact hexists (List.any_eq_true.2 ⟨r, hr, by simpa [hfor] using hle⟩)
    have hcutoff : I64.saturatingSub nowMs bounds.maxAgeMs ≤ nowMs :=
      I64.saturate_le (by have := hb.age; omega) hnow
    refine sure_bind (sure_stmt (fun refreshed rows₁ h => ?_) (by simp))
    rw [Except.ok.injEq, Prod.mk.injEq] at h
    by_cases hclaimed : ∃ r ∈ rows, r.isFor principalId envelopeId
    · obtain ⟨r, hr, hfor⟩ := hclaimed
      obtain ⟨l, m, rfl⟩ := List.append_of_mem hr
      obtain ⟨hrows, hcount⟩ :=
        refresh_of_claimed hkeys hfor ((hold r hr hfor).trans_le hcutoff)
      rw [hrows, hcount] at h
      obtain ⟨rfl, rfl⟩ := h
      exact sure_pure ⟨⟨hold, .inl ⟨l, r, m, rfl, hfor, rfl⟩⟩, rfl⟩
    · have hnone : ∀ r ∈ rows, r.isFor principalId envelopeId = false := by
        simpa using hclaimed
      rw [refresh_of_unclaimed hnone, renewable_of_unclaimed _ hnone] at h
      obtain ⟨rfl, rfl⟩ := h
      refine sure_bind (sure_contents ?_)
      refine sure_bind (sure_imp (hloop _) fun _ kept _ h => ?_)
      obtain ⟨⟨hkept, hsub⟩, rfl⟩ := h
      have hfree : ¬ kept.any fun r => r.isFor principalId envelopeId := by
        simpa using fun r hr => hnone r (hsub.subset hr)
      refine sure_bind (sure_stmt (fun _ rows₃ hrows => sure_pure ?_) (by simp [hfree]))
      obtain rfl : kept ++ [⟨principalId, envelopeId, nowMs⟩] = rows₃ := by
        simpa [hfree] using hrows
      exact ⟨⟨hold, .inr ⟨hnone, kept, hkept, rfl⟩⟩, rfl⟩

variable (principalId envelopeId) in
theorem tryClaimEnvelopeBoundedAt_sure (hb : bounds.Positive) (hnow : I64.minValue ≤ nowMs)
    (hkeys : DistinctKeys rows) :
    sure (tryClaimEnvelopeBoundedAt principalId envelopeId nowMs bounds)
      (fun claimed rows' n' =>
        Outcome bounds ⟨principalId, envelopeId, nowMs⟩ rows claimed rows' ∧ n' = n)
      (fun _ _ _ => False) rows n := by
  refine sure_imp (tryClaimEnvelopeBoundedAt_sure_of principalId envelopeId
    (K := fun kept => Evicted bounds principalId rows kept ∧ HasRoom bounds principalId kept)
    hb hnow hkeys fun n => sure_imp (evictLoop_sure hb) fun _ kept _ h => ?_)
    fun claimed rows' n' h => ?_
  · exact ⟨⟨h.1, h.1.1.sublist⟩, h.2⟩
  · refine ⟨?_, h.2⟩
    cases claimed with
    | false => exact h.1
    | true =>
      obtain ⟨hold, hrenewed | ⟨hnone, kept, hkept, hrows⟩⟩ := h.1
      · exact ⟨hold, .inl hrenewed⟩
      · exact ⟨hold, .inr ⟨hnone, kept, hkept.1, hkept.2, hrows⟩⟩

/-! ## The window of claims -/

/-- The row is older than the table promises to keep it. -/
def Expired (limits : DedupLimits) (nowMs : ℤ) (r : DedupRow) : Prop :=
  r.receivedAt < nowMs - limits.maxAgeMs

/-- So many claims were made since that the row may have made room for them. -/
def Crowded (limits : DedupLimits) (claims : DedupTable) (r : DedupRow) : Prop :=
  limits.principalRows ≤ principalCount (since r claims) r.senderId
    ∨ limits.globalRows ≤ (since r claims).length

instance : Decidable (Expired limits nowMs r) := inferInstanceAs (Decidable (_ < _))

instance : Decidable (Crowded limits claims r) := inferInstanceAs (Decidable (_ ∨ _))

/-- The table `rows` after the claims `claims`, each made once and in the order of time. -/
structure Window (limits : DedupLimits) (claims rows : DedupTable) (nowMs : ℤ) : Prop where
  distinct : claims.Pairwise fun r r' => r.isFor r'.senderId r'.envelopeId = false
  ordered : claims.Pairwise fun r r' => r.receivedAt ≤ r'.receivedAt
  past : ∀ r ∈ claims, I64.minValue ≤ r.receivedAt ∧ r.receivedAt ≤ nowMs
  kept : rows.Sublist claims
  missing : ∀ r ∈ claims, r ∈ rows ∨ Expired limits nowMs r ∨ Crowded limits claims r

theorem Window.empty (limits : DedupLimits) (nowMs : ℤ) : Window limits [] [] nowMs :=
  ⟨.nil, .nil, by simp, .slnil, by simp⟩

theorem Window.nodup (h : Window limits claims rows nowMs) : claims.Nodup :=
  h.distinct.imp fun {r r'} hne heq => by simp [heq, DedupRow.isFor] at hne

theorem Window.later {nowMs' : ℤ} (h : Window limits claims rows nowMs) (hle : nowMs ≤ nowMs') :
    Window limits claims rows nowMs' where
  distinct := h.distinct
  ordered := h.ordered
  past r hr := ⟨(h.past r hr).1, (h.past r hr).2.trans hle⟩
  kept := h.kept
  missing r hr := by
    refine (h.missing r hr).imp_right (Or.imp_left fun hexp => ?_)
    unfold Expired at hexp ⊢
    omega

theorem Crowded.append (hr : r ∈ claims) (h : Crowded limits claims r) (m : DedupTable) :
    Crowded limits (claims ++ m) r := by
  unfold Crowded principalCount at h ⊢
  rw [since_append hr, List.countP_append, List.length_append]
  omega

theorem deleteOldest_evicts {p : DedupRow → Bool} (hw : Window limits claims rows nowMs)
    (hsub : rows'.Sublist rows) (hr : r ∈ rows') (hgone : r ∉ deleteOldest rows' p) :
    p r ∧ r ∈ claims ∧ rows'.countP p ≤ (since r claims).countP p + 1 := by
  have hclaims : rows'.Sublist claims := hsub.trans hw.kept
  have hordered : (rows'.filter p).Pairwise fun a b => decide (b.receivedAt < a.receivedAt) = false :=
    ((hw.ordered.sublist (List.filter_sublist.trans hclaims)).imp fun h => by simpa using h)
  unfold deleteOldest oldest at hgone
  rw [firstBy_of_ordered hordered] at hgone
  split at hgone
  · rename_i victim hvictim
    obtain rfl : r = victim := by
      by_contra hne
      exact hgone ((List.mem_erase_of_ne hne).2 hr)
    refine ⟨(List.mem_filter.1 (List.mem_of_mem_head? hvictim)).2, hclaims.subset hr, ?_⟩
    rw [countP_since hvictim]
    exact Nat.add_le_add_right (since_sublist hclaims hw.nodup hr).countP_le 1
  · exact absurd hr hgone

/-- What the eviction for the claim `x` leaves: a row that has gone is crowded out by the claims up
to `x`. -/
structure Thinned (limits : DedupLimits) (claims : DedupTable) (x : DedupRow)
    (rows rows' : DedupTable) : Prop where
  kept : rows'.Sublist rows
  evicted : ∀ r ∈ rows, r ∈ rows' ∨ Crowded limits (claims ++ [x]) r

theorem Thinned.deleteOldest {p : DedupRow → Bool} (hw : Window limits claims rows nowMs)
    (h : Thinned limits claims x rows rows')
    (hp : ∀ r ∈ claims, p r → rows'.countP p ≤ (since r claims).countP p + 1 →
      Crowded limits (claims ++ [x]) r) :
    Thinned limits claims x rows (deleteOldest rows' p) where
  kept := (deleteOldest_sublist _ _).trans h.kept
  evicted r hr := by
    by_cases hgone : r ∈ Dedup.deleteOldest rows' p
    · exact .inl hgone
    · rcases h.evicted r hr with hr' | hcrowded
      · obtain ⟨hpr, hclaim, hcount⟩ := deleteOldest_evicts hw h.kept hr' hgone
        exact .inr (hp r hclaim hpr hcount)
      · exact .inr hcrowded

theorem Evicted.thinned (hw : Window limits claims rows nowMs) (hx : x.senderId = principalId)
    (h : Evicted limits.toDedupBounds principalId rows rows') :
    Thinned limits claims x rows rows' := by
  induction h with
  | none => exact ⟨.refl _, fun r hr => .inl hr⟩
  | principal _ hfull ih =>
    refine ih.deleteOldest hw fun r hr hp hcount => .inl ?_
    obtain rfl : r.senderId = principalId := by simpa using hp
    unfold principalCount at hfull ⊢
    rw [since_append hr, List.countP_append, List.countP_singleton, if_pos (by simpa using hx)]
    omega
  | all _ hfull ih =>
    refine ih.deleteOldest hw fun r hr _ hcount => .inr ?_
    simp only [List.countP_true] at hcount
    rw [since_append hr, List.length_append, List.length_singleton]
    omega

/-- The envelope has not been claimed so long ago, or so many claims ago, that its row may have
gone. -/
def Timely (limits : DedupLimits) (claims : DedupTable) (principalId envelopeId : String)
    (nowMs : ℤ) : Prop :=
  ∀ r ∈ claims, r.isFor principalId envelopeId →
    ¬ Expired limits nowMs r ∧ ¬ Crowded limits claims r

instance : Decidable (Timely limits claims principalId envelopeId nowMs) :=
  inferInstanceAs (Decidable (∀ r ∈ claims, _))

theorem Window.claim (hw : Window limits claims rows nowMs) (hnow : I64.minValue ≤ nowMs)
    (hnew : ∀ r ∈ claims, r.isFor principalId envelopeId = false)
    (h : Thinned limits claims ⟨principalId, envelopeId, nowMs⟩ rows rows') :
    Window limits (claims ++ [⟨principalId, envelopeId, nowMs⟩])
      (rows' ++ [⟨principalId, envelopeId, nowMs⟩]) nowMs where
  distinct := List.pairwise_append.2 ⟨hw.distinct, List.pairwise_singleton _ _, by simpa using hnew⟩
  ordered := List.pairwise_append.2
    ⟨hw.ordered, List.pairwise_singleton _ _, by simpa using fun r hr => (hw.past r hr).2⟩
  past r hr := by
    rcases List.mem_append.1 hr with hr | hr
    · exact hw.past r hr
    · obtain rfl := List.mem_singleton.1 hr
      exact ⟨hnow, le_rfl⟩
  kept := (h.kept.trans hw.kept).append (.refl _)
  missing r hr := by
    rcases List.mem_append.1 hr with hr | hr
    · rcases hw.missing r hr with hmem | hexpired | hcrowded
      · exact (h.evicted r hmem).imp (List.mem_append_left _) .inr
      · exact .inr (.inl hexpired)
      · exact .inr (.inr (hcrowded.append hr _))
    · exact .inl (List.mem_append_right _ hr)

/-- A timely claim is granted exactly to the first who asks. -/
theorem tryClaimEnvelopeBoundedAt_wp (hw : Window limits claims rows nowMs)
    (hnow : I64.minValue ≤ nowMs) (htimely : Timely limits claims principalId envelopeId nowMs) :
    wp (tryClaimEnvelopeBoundedAt principalId envelopeId nowMs limits.toDedupBounds)
      (fun claimed rows' _ =>
        if claimed then (∀ r ∈ claims, r.isFor principalId envelopeId = false)
          ∧ Window limits (claims ++ [⟨principalId, envelopeId, nowMs⟩]) rows' nowMs
        else ∃ r ∈ claims, r.isFor principalId envelopeId)
      (fun _ _ _ => True) rows n := by
  have hkeys : DistinctKeys rows := hw.distinct.sublist hw.kept
  refine wp_imp (tryClaimEnvelopeBoundedAt_sure _ _ limits.positive hnow hkeys).wp
    fun claimed rows' _ h => ?_
  cases claimed with
  | false =>
    obtain ⟨⟨-, r, hr, hfor, -⟩, -⟩ := h
    exact ⟨r, hw.kept.subset hr, hfor⟩
  | true =>
    obtain ⟨⟨hold, h⟩, -⟩ := h
    -- A row of this envelope would be there, and young enough to be found.
    have hnew : ∀ r ∈ claims, r.isFor principalId envelopeId = false := by
      intro r hr
      by_contra hfor
      rw [Bool.not_eq_false] at hfor
      obtain ⟨hexpired, hcrowded⟩ := htimely r hr hfor
      have hmem : r ∈ rows := by
        have := hw.missing r hr
        tauto
      have hyoung : nowMs - limits.maxAgeMs ≤ r.receivedAt := not_lt.1 hexpired
      exact (hold r hmem hfor).not_ge (I64.saturate_le hyoung (hw.past r hr).1)
    obtain ⟨l, r, m, rfl, hfor, -⟩ | ⟨-, kept, hkept, -, rfl⟩ := h
    · have hr := hnew r (hw.kept.subset (by simp))
      exact absurd hfor (by simp [hr])
    · exact ⟨hnew, hw.claim hnow hnew (hkept.thinned hw rfl)⟩

theorem Window.purge (hw : Window limits claims rows nowMs) :
    Window limits claims (rows.filter fun r => !decide (r.receivedAt < nowMs - limits.maxAgeMs))
      nowMs where
  distinct := hw.distinct
  ordered := hw.ordered
  past := hw.past
  kept := List.filter_sublist.trans hw.kept
  missing r hr := by
    by_cases hexpired : Expired limits nowMs r
    · exact .inr (.inl hexpired)
    · refine (hw.missing r hr).imp_left fun hmem => List.mem_filter.2 ⟨hmem, ?_⟩
      simpa [Expired] using hexpired

end Dedup

end EdgeNode
