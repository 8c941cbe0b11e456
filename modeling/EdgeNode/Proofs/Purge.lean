import EdgeNode.Proofs.ClaimHistory

/-!
# Purging the table of claims

A purge only takes rows that no later claim could find. Beside a table that was never purged, the
purged one holds the rows since some time in the past: no claim finds the others, and they are the
first to make room. A row that is renewed in one table may be new in the other, which is why the rows
are compared up to their order.
-/

namespace EdgeNode

open Tx

namespace Dedup

variable {bounds : DedupBounds} {limits : DedupLimits} {rows rows' purged purged' : DedupTable}
  {principalId : String} {p : DedupRow → Bool} {cutoff nowMs : ℤ} {r x e : DedupRow} {n : ℕ}

/-! ## Room in a table within its limits -/

def roomFor (bounds : DedupBounds) (principalId : String) (rows : DedupTable) : DedupTable :=
  if principalCount rows principalId < bounds.principalRows ∧ rows.length < bounds.globalRows then rows
  else if bounds.principalRows ≤ principalCount rows principalId then
    deleteOldest rows fun r => r.senderId == principalId
  else deleteOldest rows fun _ => true

theorem deleteOldest_eq_erase (h : 0 < rows.countP p) :
    ∃ e ∈ rows, p e ∧ oldest rows p = some e ∧ deleteOldest rows p = rows.erase e := by
  obtain ⟨r, hr, hp⟩ := List.countP_pos_iff.1 h
  cases he : oldest rows p with
  | none =>
    have hempty : rows.filter p = [] := firstBy_eq_none.1 he
    exact absurd (List.mem_filter.2 ⟨hr, hp⟩) (by simp [hempty])
  | some e =>
    obtain ⟨hmem, hp⟩ := List.mem_filter.1 (firstBy_mem he)
    exact ⟨e, hmem, hp, rfl, by simp [deleteOldest, he]⟩

theorem roomFor_hasRoom (principalId : String) (hb : bounds.Positive) (h : Bounded bounds rows) :
    HasRoom bounds principalId (roomFor bounds principalId rows)
      ∧ (roomFor bounds principalId rows).Sublist rows := by
  have hglobal := hb.global
  have hprincipal := hb.principal
  have hcount := h.principal principalId
  have hall := h.all
  unfold roomFor
  split_ifs with hroom hfull
  · exact ⟨hroom, .refl _⟩
  · refine ⟨?_, deleteOldest_sublist _ _⟩
    unfold principalCount at hcount hfull
    have hsome : 0 < rows.countP fun r => r.senderId == principalId := by omega
    obtain ⟨e, he, hp, -, heq⟩ := deleteOldest_eq_erase hsome
    have hpos := List.length_pos_of_mem he
    unfold HasRoom principalCount
    rw [heq, List.countP_erase, if_pos ⟨he, hp⟩, List.length_erase_of_mem he]
    omega
  · refine ⟨?_, deleteOldest_sublist _ _⟩
    have hsome : 0 < rows.countP fun _ => true := by
      rw [List.countP_true]
      omega
    have hlength := deleteOldest_shrinks hsome
    have hfewer := (deleteOldest_sublist rows fun _ => true).countP_le
      (p := fun r => r.senderId == principalId)
    unfold HasRoom principalCount at *
    omega

theorem evictLoop_eq_roomFor (hb : bounds.Positive) (h : Bounded bounds rows) :
    sure (Tx.repeatUntil (fun _ => evict bounds principalId) .sqlite (rows.length + 1) ())
      (fun _ kept n' => kept = roomFor bounds principalId rows ∧ n' = n)
      (fun _ _ _ => False) rows n := by
  obtain ⟨⟨hprincipalRoom, hroomLeft⟩, -⟩ := roomFor_hasRoom principalId hb h
  refine sure_repeatUntil (μ := List.length)
    (I := fun _ rows' n' => (rows' = rows ∨ rows' = roomFor bounds principalId rows) ∧ n' = n)
    (fun _ rows' n' hrows => ?_) ⟨.inl rfl, rfl⟩ (Nat.lt_succ_self _)
  obtain ⟨hrows, rfl⟩ := hrows
  refine sure_bind (sure_query (sure_bind (sure_query ?_)))
  rcases hrows with rfl | rfl
  · have hroomFor : roomFor bounds principalId rows' = roomFor bounds principalId rows' := rfl
    conv_rhs at hroomFor => unfold roomFor
    have hglobal := hb.global
    have hprincipal := hb.principal
    split_ifs at hroomFor ⊢ with hroom hfull
    · exact sure_pure ⟨hroomFor.symm, rfl⟩
    · refine sure_bind (sure_exec (sure_pure ⟨⟨.inr hroomFor.symm, rfl⟩, deleteOldest_shrinks ?_⟩))
      unfold principalCount at hfull
      omega
    · refine sure_bind (sure_exec (sure_pure ⟨⟨.inr hroomFor.symm, rfl⟩, deleteOldest_shrinks ?_⟩))
      rw [List.countP_true]
      omega
  · rw [if_pos ⟨hprincipalRoom, hroomLeft⟩]
    exact sure_pure ⟨rfl, rfl⟩

abbrev Exactly (bounds : DedupBounds) (x : DedupRow) (rows : DedupTable) : Bool → DedupTable → Prop :=
  OutcomeOf (fun kept => kept = roomFor bounds x.senderId rows) bounds x rows

theorem ClaimCall.answer_exactly {call : ClaimCall} (hb : bounds.Positive) (h : Bounded bounds rows)
    (hfaults : call.faults = []) :
    ∃ claimed c, call.answer bounds rows = (.ok claimed, c)
      ∧ Exactly bounds call.row rows claimed c.db := by
  obtain ⟨claimed, rows', n', hok, ho, -⟩ := (tryClaimEnvelopeBoundedAt_sure_of
    call.principalId call.envelopeId (n := 0) hb call.reading.1 h.keys fun n =>
      sure_imp (evictLoop_eq_roomFor hb h) fun _ kept _ hkept =>
        ⟨⟨hkept.1, hkept.1 ▸ (roomFor_hasRoom _ hb h).2⟩, hkept.2⟩).ok
  exact ⟨claimed, ⟨rows', [], n'⟩, by unfold ClaimCall.answer; rw [hfaults]; exact hok, ho⟩

/-! ## The rows since some time -/

def younger (cutoff : ℤ) (rows : DedupTable) : DedupTable :=
  rows.filter fun r => decide (cutoff ≤ r.receivedAt)

def DistinctTimes (rows : DedupTable) : Prop :=
  rows.Pairwise fun r r' => r.receivedAt ≠ r'.receivedAt

theorem mem_younger : r ∈ younger cutoff rows ↔ r ∈ rows ∧ cutoff ≤ r.receivedAt := by
  simp [younger]

theorem DistinctTimes.eq (h : DistinctTimes rows) {r' : DedupRow} (hr : r ∈ rows) (hr' : r' ∈ rows)
    (heq : r.receivedAt = r'.receivedAt) : r = r' := by
  by_contra hne
  have : Std.Symm fun r r' : DedupRow => r.receivedAt ≠ r'.receivedAt := ⟨fun _ _ h => h.symm⟩
  exact List.Pairwise.forall h hr hr' hne heq

theorem DistinctTimes.nodup (h : DistinctTimes rows) : rows.Nodup :=
  h.imp fun hne heq => hne (congrArg _ heq)

theorem oldest_eq_some_iff (h : DistinctTimes rows) :
    oldest rows p = some e ↔ e ∈ rows ∧ p e
      ∧ ∀ r ∈ rows, p r → e.receivedAt ≤ r.receivedAt := by
  have hleast : ∀ {e}, oldest rows p = some e → ∀ r ∈ rows, p r → e.receivedAt ≤ r.receivedAt := by
    intro e he r hr hp
    have hnone : decide (r.receivedAt < e.receivedAt) = false := by
      refine firstBy_least (fun a b hab => ?_) (fun a b c hab hbc => ?_) he r
        (List.mem_filter.2 ⟨hr, hp⟩)
      · simp only [decide_eq_true_eq] at hab
        simpa using hab.le
      · simp only [decide_eq_false_iff_not, not_lt] at hab hbc ⊢
        exact hab.trans hbc
    simpa using hnone
  constructor
  · intro he
    obtain ⟨hmem, hp⟩ := List.mem_filter.1 (firstBy_mem he)
    exact ⟨hmem, hp, hleast he⟩
  · rintro ⟨hmem, hp, hoth⟩
    cases he : oldest rows p with
    | none =>
      have hempty : rows.filter p = [] := firstBy_eq_none.1 he
      exact absurd (List.mem_filter.2 ⟨hmem, hp⟩) (by simp [hempty])
    | some e' =>
      obtain ⟨hmem', hp'⟩ := List.mem_filter.1 (firstBy_mem he)
      exact congrArg some (h.eq hmem' hmem ((hleast he e hmem hp).antisymm (hoth e' hmem' hp')))

theorem younger_erase (h : DistinctTimes rows) :
    younger cutoff (rows.erase e) = (younger cutoff rows).erase e := by
  unfold younger
  rw [h.nodup.erase_eq_filter, (h.nodup.filter _).erase_eq_filter, List.filter_comm]

theorem deleteOldest_younger (htimes : DistinctTimes rows)
    (hperm : purged.Perm (younger cutoff rows)) (hpos : 0 < rows.countP p) :
    purged.countP p = rows.countP p
        ∧ (deleteOldest purged p).Perm (younger cutoff (deleteOldest rows p))
      ∨ purged.countP p < rows.countP p ∧ purged.length < rows.length
        ∧ purged.Perm (younger cutoff (deleteOldest rows p)) := by
  obtain ⟨e, he, hp, holdest, heq⟩ := deleteOldest_eq_erase hpos
  obtain ⟨-, -, hleast⟩ := (oldest_eq_some_iff htimes).1 holdest
  rw [heq, younger_erase htimes]
  by_cases hyoung : cutoff ≤ e.receivedAt
  · -- All rows with `p` are as young as the oldest of them.
    have hsame : (younger cutoff rows).filter p = rows.filter p := by
      unfold younger
      rw [List.filter_filter]
      refine List.filter_congr fun r hr => ?_
      by_cases hpr : p r
      · simp [hpr, hyoung.trans (hleast r hr hpr)]
      · simp [hpr]
    have hcount : purged.countP p = rows.countP p := by
      rw [hperm.countP_eq, List.countP_eq_length_filter, hsame, List.countP_eq_length_filter]
    have hpurged : oldest purged p = some e := by
      have hdistinct : DistinctTimes purged :=
        (htimes.filter _).perm hperm.symm fun h => h.symm
      refine (oldest_eq_some_iff hdistinct).2 ⟨?_, hp, fun r hr hpr => ?_⟩
      · exact hperm.mem_iff.2 (mem_younger.2 ⟨he, hyoung⟩)
      · exact hleast r (mem_younger.1 (hperm.mem_iff.1 hr)).1 hpr
    refine .inl ⟨hcount, ?_⟩
    have herase : deleteOldest purged p = purged.erase e := by simp [deleteOldest, hpurged]
    rw [herase]
    exact hperm.erase e
  · have hgone : e ∉ younger cutoff rows := fun hmem => hyoung (mem_younger.1 hmem).2
    rw [List.erase_of_not_mem hgone]
    have hsub : (younger cutoff rows).Sublist (rows.erase e) := by
      rw [htimes.nodup.erase_eq_filter]
      refine List.monotone_filter_right rows fun r hr => ?_
      have hne : r ≠ e := by
        rintro rfl
        exact hyoung (by simpa using hr)
      simpa using hne
    refine .inr ⟨?_, ?_, hperm⟩
    · have hle := hsub.countP_le (p := p)
      rw [List.countP_erase, if_pos ⟨he, hp⟩] at hle
      rw [hperm.countP_eq]
      omega
    · have hle := hsub.length_le
      rw [List.length_erase_of_mem he] at hle
      rw [hperm.length_eq]
      have := List.length_pos_of_mem he
      omega

theorem roomFor_younger (hb : bounds.Positive) (h : Bounded bounds rows)
    (htimes : DistinctTimes rows) (hperm : purged.Perm (younger cutoff rows)) :
    (roomFor bounds principalId purged).Perm (younger cutoff (roomFor bounds principalId rows)) := by
  have hglobal := hb.global
  have hprincipal := hb.principal
  have hcount := h.principal principalId
  have hall := h.all
  have hlength : purged.length ≤ rows.length := by
    rw [hperm.length_eq]
    exact List.length_filter_le _ _
  have hfewer : principalCount purged principalId ≤ principalCount rows principalId := by
    unfold principalCount
    rw [hperm.countP_eq]
    exact List.filter_sublist.countP_le
  by_cases hroom : principalCount rows principalId < bounds.principalRows
      ∧ rows.length < bounds.globalRows
  · rw [roomFor, if_pos (by omega), roomFor, if_pos hroom]
    exact hperm
  · by_cases hfull : bounds.principalRows ≤ principalCount rows principalId
    · rw [show roomFor bounds principalId rows = _ by rw [roomFor, if_neg hroom, if_pos hfull]]
      rcases deleteOldest_younger (p := fun r => r.senderId == principalId) htimes hperm
        (by unfold principalCount at hfull; omega) with ⟨hsame, hleft⟩ | ⟨hless, hshort, hleft⟩
      · unfold principalCount at hfull hfewer
        rw [roomFor, if_neg (by unfold principalCount; omega), if_pos (by unfold principalCount; omega)]
        exact hleft
      · rw [roomFor, if_pos (by unfold principalCount at *; omega)]
        exact hleft
    · rw [show roomFor bounds principalId rows = _ by rw [roomFor, if_neg hroom, if_neg hfull]]
      rcases deleteOldest_younger (p := fun _ => true) htimes hperm
        (by rw [List.countP_true]; omega) with ⟨hsame, hleft⟩ | ⟨-, hshort, hleft⟩
      · rw [List.countP_true] at hsame
        rw [roomFor, if_neg (by omega), if_neg (by omega)]
        exact hleft
      · rw [roomFor, if_pos (by omega)]
        exact hleft

/-! ## One claim on both tables -/

theorem DistinctTimes.concat (h : DistinctTimes rows) (hnew : ∀ r ∈ rows, r.receivedAt < x.receivedAt) :
    DistinctTimes (rows ++ [x]) :=
  List.pairwise_append.2 ⟨h, List.pairwise_singleton _ _, fun r hr y hy => by
    rw [List.mem_singleton.1 hy]
    exact (hnew r hr).ne⟩

theorem DistinctTimes.replace {l m : DedupTable} (h : DistinctTimes (l ++ r :: m))
    (hnew : ∀ y ∈ l ++ m, y.receivedAt < x.receivedAt) : DistinctTimes (l ++ x :: m) := by
  have hrest : DistinctTimes (l ++ m) :=
    h.sublist ((List.sublist_cons_self r m).append_left l)
  exact (hrest.concat hnew).perm
    ((List.perm_append_singleton x (l ++ m)).trans List.perm_middle.symm) fun h => h.symm

theorem younger_concat (hx : cutoff ≤ x.receivedAt) :
    younger cutoff (rows ++ [x]) = younger cutoff rows ++ [x] := by
  simp [younger, hx]

theorem younger_renewed {l m : DedupTable} (hx : cutoff ≤ x.receivedAt) :
    (younger cutoff (l ++ x :: m)).Perm (x :: younger cutoff (l ++ m)) := by
  unfold younger
  rw [List.filter_append, List.filter_append, List.filter_cons_of_pos (by simpa using hx)]
  exact List.perm_middle

theorem exactly_younger {claimed claimed' : Bool} (hb : bounds.Positive) (h : Bounded bounds rows)
    (htimes : DistinctTimes rows) (hpast : ∀ r ∈ rows, r.receivedAt < x.receivedAt)
    (hx : I64.minValue ≤ x.receivedAt)
    (hcutoff : cutoff ≤ I64.saturatingSub x.receivedAt bounds.maxAgeMs)
    (hperm : purged.Perm (younger cutoff rows)) (ho : Exactly bounds x rows claimed rows')
    (ho' : Exactly bounds x purged claimed' purged') :
    claimed = claimed' ∧ DistinctTimes rows' ∧ purged'.Perm (younger cutoff rows') := by
  have hage : I64.saturatingSub x.receivedAt bounds.maxAgeMs ≤ x.receivedAt :=
    I64.saturate_le (by have := hb.age; omega) hx
  have hpurged : ∀ r ∈ purged, r ∈ rows := fun r hr => (mem_younger.1 (hperm.mem_iff.1 hr)).1
  cases claimed with
  | false =>
    obtain ⟨rfl, r, hr, hfor, hfresh⟩ := ho
    have hr' : r ∈ purged := hperm.mem_iff.2 (mem_younger.2 ⟨hr, hcutoff.trans hfresh⟩)
    cases claimed' with
    | false => exact ⟨rfl, htimes, ho'.1 ▸ hperm⟩
    | true => exact absurd (ho'.1 r hr' hfor) hfresh.not_gt
  | true =>
    obtain ⟨hstale, ho⟩ := ho
    cases claimed' with
    | false =>
      obtain ⟨-, r, hr, hfor, hfresh⟩ := ho'
      exact absurd (hstale r (hpurged r hr) hfor) hfresh.not_gt
    | true =>
      obtain ⟨-, ho'⟩ := ho'
      refine ⟨rfl, ?_⟩
      obtain ⟨l, r, m, rfl, hfor, rfl⟩ | ⟨hnone, kept, rfl, rfl⟩ := ho
      · have hothers := h.keys.around hfor
        have hnew : ∀ y ∈ l ++ m, y.receivedAt < x.receivedAt := fun y hy => hpast y (by
          rw [List.mem_append] at hy
          rw [List.mem_append, List.mem_cons]
          tauto)
        refine ⟨htimes.replace hnew, ?_⟩
        by_cases hyoung : cutoff ≤ r.receivedAt
        · -- Both tables have the row, and renew it.
          have hrest : purged.Perm (r :: younger cutoff (l ++ m)) :=
            hperm.trans (younger_renewed hyoung)
          obtain ⟨l', r', m', rfl, hfor', rfl⟩ | ⟨hnone', -⟩ := ho'
          · have hr' : r' ∈ r :: younger cutoff (l ++ m) := hrest.mem_iff.1 (by simp)
            obtain rfl : r' = r := by
              rcases List.mem_cons.1 hr' with heq | hmem
              · exact heq
              · exact absurd hfor' (by simp [hothers r' (mem_younger.1 hmem).1])
            have hleft : (l' ++ m').Perm (younger cutoff (l ++ m)) :=
              (List.perm_middle.symm.trans hrest).cons_inv
            exact List.perm_middle.trans ((hleft.cons x).trans
              (younger_renewed (hcutoff.trans hage)).symm)
          · exact absurd hfor (by simp [hnone' r (hrest.mem_iff.2 List.mem_cons_self)])
        · -- The purged table has room for the row as a new one.
          have hrest : purged.Perm (younger cutoff (l ++ m)) := by
            refine hperm.trans (.of_eq ?_)
            unfold younger
            rw [List.filter_append, List.filter_append, List.filter_cons_of_neg (by simpa using hyoung)]
          have hgone : ∀ y ∈ purged, y.isFor x.senderId x.envelopeId = false :=
            fun y hy => hothers y (mem_younger.1 (hrest.mem_iff.1 hy)).1
          obtain ⟨l', r', m', rfl, hfor', -⟩ | ⟨-, kept, rfl, rfl⟩ := ho'
          · exact absurd hfor' (by simp [hgone r' (by simp)])
          · have hprincipal := h.principal x.senderId
            have hall := h.all
            have hcount : principalCount purged x.senderId ≤ principalCount (l ++ m) x.senderId := by
              unfold principalCount
              rw [hrest.countP_eq]
              exact List.filter_sublist.countP_le
            have hlength : purged.length ≤ (l ++ m).length := by
              rw [hrest.length_eq]
              exact List.length_filter_le _ _
            have hsender : r.senderId = x.senderId := (isFor_iff.1 hfor).1
            unfold principalCount at hprincipal hcount
            simp only [List.countP_append, List.countP_cons, hsender, beq_self_eq_true, if_true,
              List.length_append, List.length_cons] at hprincipal hcount hall hlength
            rw [roomFor, if_pos (by unfold principalCount; omega)]
            exact ((hrest.append_right [x]).trans List.perm_append_comm).trans
              (younger_renewed (hcutoff.trans hage)).symm
      · obtain ⟨l', r', m', rfl, hfor', -⟩ | ⟨-, kept', rfl, rfl⟩ := ho'
        · exact absurd hfor' (by simp [hnone r' (hpurged r' (by simp))])
        · obtain ⟨-, hsub⟩ := roomFor_hasRoom x.senderId hb h
          refine ⟨DistinctTimes.concat (htimes.sublist hsub) fun r hr => hpast r (hsub.subset hr), ?_⟩
          rw [younger_concat (hcutoff.trans hage)]
          exact (roomFor_younger hb h htimes hperm).append_right [x]

/-! ## Runs -/

/-- Claims whose readings increase and of which no statement fails, and purges of what is older than
the age limit was at the last of them. -/
def PurgedInTime (limits : DedupLimits) : Option ℤ → List DedupCall → Prop
  | _, [] => True
  | latest, .claim call :: calls =>
    (∀ t ∈ latest, t < call.nowMs) ∧ call.faults = [] ∧ PurgedInTime limits (some call.nowMs) calls
  | latest, .purge cutoffMs :: calls =>
    (∀ t ∈ latest, cutoffMs ≤ I64.saturatingSub t limits.maxAgeMs) ∧ PurgedInTime limits latest calls

/-- `purged` holds the rows of `rows` since a time that no later claim looks back to. -/
structure Beside (limits : DedupLimits) (latest : Option ℤ) (rows purged : DedupTable) : Prop where
  bounded : Bounded limits.toDedupBounds rows
  times : DistinctTimes rows
  past : ∀ r ∈ rows, ∃ t ∈ latest, r.receivedAt ≤ t
  since : ∃ cutoff, (∀ t ∈ latest, cutoff ≤ I64.saturatingSub t limits.maxAgeMs)
    ∧ purged.Perm (younger cutoff rows)

variable {latest : Option ℤ}

theorem younger_younger {cutoff' : ℤ} :
    younger cutoff' (younger cutoff rows) = younger (max cutoff cutoff') rows := by
  unfold younger
  rw [List.filter_filter]
  refine List.filter_congr fun r _ => ?_
  rw [← Bool.decide_and, decide_eq_decide]
  omega

theorem Bounded.perm (h : Bounded bounds rows) (hperm : purged.Perm (younger cutoff rows)) :
    Bounded bounds purged := by
  have hyounger := h.sublist (List.filter_sublist : (younger cutoff rows).Sublist rows)
  refine ⟨hyounger.keys.perm hperm.symm fun {r r'} hne => ?_, fun p => ?_, ?_⟩
  · rw [Bool.eq_false_iff, Ne, isFor_iff] at hne ⊢
    exact fun heq => hne ⟨heq.1.symm, heq.2.symm⟩
  · unfold principalCount
    rw [hperm.countP_eq]
    exact hyounger.principal p
  · rw [hperm.length_eq]
    exact hyounger.all

theorem Beside.purge {cutoffMs : ℤ} (h : Beside limits latest rows purged)
    (hcutoff : ∀ t ∈ latest, cutoffMs ≤ I64.saturatingSub t limits.maxAgeMs) :
    Beside limits latest rows (purgeDedupBefore cutoffMs { db := purged }).2.db := by
  obtain ⟨cutoff, hold, hperm⟩ := h.since
  refine ⟨h.bounded, h.times, h.past, max cutoff cutoffMs, fun t ht =>
    max_le (hold t ht) (hcutoff t ht), ?_⟩
  rw [← younger_younger]
  have hkept : (purgeDedupBefore cutoffMs { db := purged }).2.db = younger cutoffMs purged :=
    List.filter_congr fun r _ => by rw [← decide_not, decide_eq_decide, not_lt]
  rw [hkept]
  exact hperm.filter _

theorem Beside.reading (h : Beside limits latest rows purged) (hlatest : ∀ t ∈ latest, t < nowMs) :
    ∃ cutoff, cutoff ≤ I64.saturatingSub nowMs limits.maxAgeMs
      ∧ purged.Perm (younger cutoff rows) := by
  obtain ⟨cutoff, hold, hperm⟩ := h.since
  cases latest with
  | some t =>
    refine ⟨cutoff, (hold t rfl).trans (I64.saturate_mono ?_), hperm⟩
    have := hlatest t rfl
    omega
  | none =>
    have hempty : rows = [] := List.eq_nil_iff_forall_not_mem.2 fun r hr => by
      obtain ⟨t, ht, -⟩ := h.past r hr
      exact absurd ht (by simp)
    subst hempty
    exact ⟨_, le_rfl, hperm⟩

theorem Beside.claim {call : ClaimCall} (h : Beside limits latest rows purged)
    (hlatest : ∀ t ∈ latest, t < call.nowMs) (hfaults : call.faults = []) :
    ∃ claimed c c', call.answer limits.toDedupBounds rows = (.ok claimed, c)
      ∧ call.answer limits.toDedupBounds purged = (.ok claimed, c')
      ∧ Beside limits (some call.nowMs) (if call.committed then c.db else rows)
        (if call.committed then c'.db else purged) := by
  obtain ⟨cutoff, hcutoff, hperm⟩ := h.reading hlatest
  have hpast : ∀ r ∈ rows, r.receivedAt < call.row.receivedAt := by
    intro r hr
    obtain ⟨t, ht, hle⟩ := h.past r hr
    exact hle.trans_lt (hlatest t ht)
  obtain ⟨claimed, c, hanswer, ho⟩ := call.answer_exactly limits.positive h.bounded hfaults
  obtain ⟨claimed', c', hanswer', ho'⟩ :=
    call.answer_exactly limits.positive (h.bounded.perm hperm) hfaults
  obtain ⟨rfl, htimes, hperm'⟩ := exactly_younger limits.positive h.bounded h.times hpast
    call.reading.1 hcutoff hperm ho ho'
  refine ⟨claimed, c, c', hanswer, hanswer', ?_⟩
  have hsince : ∀ t ∈ some call.nowMs, cutoff ≤ I64.saturatingSub t limits.maxAgeMs := by
    rintro _ ⟨rfl⟩
    exact hcutoff
  split_ifs
  · have houtcome := call.answer_outcome limits.positive h.bounded.keys hanswer
    refine ⟨houtcome.bounded h.bounded, htimes, fun r hr => ⟨_, rfl, ?_⟩, cutoff, hsince, hperm'⟩
    have hleft : ∀ r ∈ c.db, r ∈ rows ∨ r = call.row := by
      cases claimed with
      | false => exact fun r hr => .inl (houtcome.1 ▸ hr)
      | true =>
        intro r hr
        obtain ⟨others, hsub, hperm⟩ := houtcome.leaves
        rcases List.mem_cons.1 (hperm.mem_iff.1 hr) with rfl | hr
        · exact .inr rfl
        · exact .inl (hsub.subset hr)
    rcases hleft r hr with hr | rfl
    · exact (hpast r hr).le
    · exact le_rfl
  · exact ⟨h.bounded, h.times, fun r hr => ⟨_, rfl, (hpast r hr).le⟩, cutoff, hsince, hperm⟩

theorem Beside.answers : ∀ {calls : List DedupCall} {latest : Option ℤ} {rows purged : DedupTable},
    Beside limits latest rows purged → PurgedInTime limits latest calls →
      dedupAnswers limits.toDedupBounds purged calls
        = dedupAnswers limits.toDedupBounds rows (calls.filter DedupCall.isClaim)
  | [], _, _, _, _, _ => rfl
  | .claim call :: calls, latest, rows, purged, h, htime => by
    obtain ⟨hlatest, hfaults, htime⟩ := htime
    obtain ⟨claimed, c, c', hanswer, hanswer', hbeside⟩ := h.claim hlatest hfaults
    rw [List.filter_cons_of_pos rfl]
    simp only [dedupAnswers, hanswer, hanswer', Except.isOk, Except.toBool, Bool.true_and]
    rw [hbeside.answers htime]
  | .purge cutoffMs :: calls, latest, rows, purged, h, htime => by
    rw [List.filter_cons_of_neg (by simp [DedupCall.isClaim])]
    exact (h.purge htime.1).answers htime.2

/-- Whatever purges stand between claims with increasing readings, the claims are answered as without
them. -/
theorem purges_unobservable (limits : DedupLimits) (calls : List DedupCall)
    (htime : PurgedInTime limits none calls) :
    dedupAnswers limits.toDedupBounds [] calls
      = dedupAnswers limits.toDedupBounds [] (calls.filter DedupCall.isClaim) := by
  have hempty : Beside limits none [] [] :=
    ⟨⟨.nil, fun _ => limits.positive.principal.le, limits.positive.global.le⟩, .nil, by simp, 0,
      by simp, .refl _⟩
  exact hempty.answers htime

/-- A claim whose row a purge has taken is granted again, and a younger one refused, with and without
the purges. -/
theorem purged_window_answers :
    let limits : DedupLimits := ⟨⟨3, 2, 100⟩, by decide⟩
    let calls : List DedupCall :=
      [.claim (claimOf "a" 0 (by decide)), .purge (-100), .claim (claimOf "b" 150 (by decide)),
        .purge 50, .purge 20, .claim (claimOf "a" 160 (by decide)),
        .claim (claimOf "b" 170 (by decide))]
    (dedupAnswers limits.toDedupBounds [] calls).map Except.toOption
        = [some true, some true, some true, some false]
      ∧ dedupAnswers limits.toDedupBounds [] calls
        = dedupAnswers limits.toDedupBounds [] (calls.filter DedupCall.isClaim) := by
  refine ⟨by decide +kernel, purges_unobservable _ _ ?_⟩
  simp only [PurgedInTime, claimOf]
  decide +kernel

end Dedup

end EdgeNode
