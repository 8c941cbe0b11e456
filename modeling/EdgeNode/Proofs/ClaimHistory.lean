import EdgeNode.Proofs.Dedup

/-!
# What a bounded table of claims remembers

Every row of the table was left by the last claim granted for its envelope. A row only makes room
while its principal, or the table, is at the limit and no row that counts is older: the claims behind
those rows all had a clock reading no earlier. So an envelope with fewer claims than that since its
own reading still has its row.
-/

namespace EdgeNode

open Tx

namespace Dedup

variable {bounds : DedupBounds} {granted rows rows' : DedupTable} {r x : DedupRow}
  {principalId : String} {nowMs : ℤ} {history : ClaimHistory} {call : ClaimCall}

structure Bounded (bounds : DedupBounds) (rows : DedupTable) : Prop where
  keys : DistinctKeys rows
  principal : ∀ principalId, principalCount rows principalId ≤ bounds.principalRows
  all : rows.length ≤ bounds.globalRows

theorem Bounded.sublist (h : Bounded bounds rows) (hsub : rows'.Sublist rows) :
    Bounded bounds rows' where
  keys := h.keys.sublist hsub
  principal p := by
    have := h.principal p
    have := hsub.countP_le (p := fun r => r.senderId == p)
    unfold principalCount at *
    omega
  all := by
    have := h.all
    have := hsub.length_le
    omega

theorem Outcome.bounded {claimed : Bool} (h : Bounded bounds rows)
    (ho : Outcome bounds x rows claimed rows') : Bounded bounds rows' := by
  cases claimed with
  | false => exact ho.1 ▸ h
  | true =>
    obtain ⟨-, ⟨l, r, m, rfl, hfor, rfl⟩ | ⟨hnone, kept, hkept, hroom, rfl⟩⟩ := ho
    · -- The renewed row has the key of the old one.
      obtain ⟨hsender, henvelope⟩ := isFor_iff.1 hfor
      refine ⟨?_, fun p => ?_, ?_⟩
      · have hkeys := h.keys
        unfold DistinctKeys at hkeys ⊢
        simpa only [List.pairwise_append, List.pairwise_cons, List.mem_cons, forall_eq_or_imp,
          DedupRow.isFor, hsender, henvelope] using hkeys
      · have := h.principal p
        simpa only [principalCount, List.countP_append, List.countP_cons, hsender] using this
      · simpa using h.all
    · have hb := h.sublist hkept.sublist
      refine ⟨?_, fun p => ?_, ?_⟩
      · refine List.pairwise_append.2 ⟨hb.keys, List.pairwise_singleton _ _, fun r hr y hy => ?_⟩
        rw [List.mem_singleton.1 hy]
        exact hnone r (hkept.sublist.subset hr)
      · have hp := hb.principal p
        have hroom := hroom.1
        unfold principalCount at hp hroom ⊢
        rw [List.countP_append, List.countP_singleton]
        split_ifs with hx
        · obtain rfl : x.senderId = p := by simpa using hx
          omega
        · omega
      · have := hroom.2
        rw [List.length_append, List.length_singleton]
        omega

/-! ## The memory -/

/-- More claims than a limit, that of `r` among them, had a reading no earlier than `r`. -/
def Outnumbered (bounds : DedupBounds) (granted : DedupTable) (r : DedupRow) : Prop :=
  bounds.principalRows
      < granted.countP (fun y => y.senderId == r.senderId && r.receivedAt ≤ y.receivedAt)
    ∨ bounds.globalRows < granted.countP fun y => r.receivedAt ≤ y.receivedAt

theorem Outnumbered.append (h : Outnumbered bounds granted r) (m : DedupTable) :
    Outnumbered bounds (granted ++ m) r := by
  unfold Outnumbered at h ⊢
  rw [List.countP_append, List.countP_append]
  omega

theorem deleteOldest_least {p : DedupRow → Bool} (hr : r ∈ rows)
    (hgone : r ∉ deleteOldest rows p) : p r ∧ ∀ y ∈ rows, p y → r.receivedAt ≤ y.receivedAt := by
  unfold deleteOldest at hgone
  split at hgone
  · rename_i victim hvictim
    obtain rfl : r = victim := by
      by_contra hne
      exact hgone ((List.mem_erase_of_ne hne).2 hr)
    refine ⟨(List.mem_filter.1 (firstBy_mem hvictim)).2, fun y hy hp => ?_⟩
    have hleast := firstBy_least (by simpa using fun _ _ => le_of_lt)
      (by simpa using fun _ _ _ => le_trans) hvictim y (List.mem_filter.2 ⟨hy, hp⟩)
    simpa using hleast
  · exact absurd hr hgone

theorem Evicted.gone (h : Evicted bounds principalId rows rows') (hr : r ∈ rows)
    (hgone : r ∉ rows') :
    r.senderId = principalId ∧ bounds.principalRows
        ≤ rows.countP (fun y => y.senderId == r.senderId && r.receivedAt ≤ y.receivedAt)
      ∨ bounds.globalRows ≤ rows.countP fun y => r.receivedAt ≤ y.receivedAt := by
  induction h with
  | none => exact absurd hr hgone
  | @principal kept hkept hfull ih =>
    by_cases hmem : r ∈ kept
    · obtain ⟨hsender, hleast⟩ := deleteOldest_least hmem hgone
      have hcount : principalCount kept principalId
          ≤ kept.countP fun y => y.senderId == r.senderId && r.receivedAt ≤ y.receivedAt :=
        List.countP_mono_left fun y hy hp => by
          rw [beq_iff_eq] at hsender hp
          simpa [hsender, hp] using hleast y hy (by simpa using hp)
      have hsub := hkept.sublist.countP_le
        (p := fun y => y.senderId == r.senderId && decide (r.receivedAt ≤ y.receivedAt))
      exact .inl ⟨by simpa using hsender, by omega⟩
    · exact ih hmem
  | @all kept hkept hfull ih =>
    by_cases hmem : r ∈ kept
    · obtain ⟨-, hleast⟩ := deleteOldest_least hmem hgone
      have hcount : kept.length ≤ kept.countP fun y => r.receivedAt ≤ y.receivedAt := by
        rw [List.countP_eq_length.2 fun y hy => by simpa using hleast y hy rfl]
      have hsub := hkept.sublist.countP_le (p := fun y => decide (r.receivedAt ≤ y.receivedAt))
      exact .inr (by omega)
    · exact ih hmem

structure Remembers (bounds : DedupBounds) (granted rows : DedupTable) (nowMs : ℤ) : Prop where
  backed : rows.Subperm granted
  past : ∀ r ∈ granted, I64.minValue ≤ r.receivedAt ∧ r.receivedAt ≤ nowMs
  missing : ∀ r ∈ granted,
    r ∈ rows ∨ r.receivedAt + bounds.maxAgeMs < nowMs ∨ Outnumbered bounds granted r

theorem Remembers.later {nowMs' : ℤ} (h : Remembers bounds granted rows nowMs)
    (hle : nowMs ≤ nowMs') : Remembers bounds granted rows nowMs' where
  backed := h.backed
  past r hr := ⟨(h.past r hr).1, (h.past r hr).2.trans hle⟩
  missing r hr := (h.missing r hr).imp_right (Or.imp_left fun hold => hold.trans_le hle)

theorem Outcome.leaves (ho : Outcome bounds x rows true rows') :
    ∃ others, others.Sublist rows ∧ rows'.Perm (x :: others) := by
  obtain ⟨-, ⟨l, r, m, rfl, -, rfl⟩ | ⟨-, kept, hkept, -, rfl⟩⟩ := ho
  · exact ⟨l ++ m, (List.sublist_cons_self r m).append_left l, List.perm_middle⟩
  · exact ⟨kept, hkept.sublist, List.perm_append_singleton x kept⟩

theorem Remembers.grant (h : Remembers bounds granted rows x.receivedAt)
    (hx : I64.minValue ≤ x.receivedAt) (ho : Outcome bounds x rows true rows') :
    Remembers bounds (granted ++ [x]) rows' x.receivedAt where
  backed := by
    obtain ⟨others, hsub, hperm⟩ := ho.leaves
    have hcons : (x :: others).Subperm (x :: granted) :=
      List.subperm_cons x |>.2 (hsub.subperm.trans h.backed)
    exact (hperm.subperm.trans hcons).trans (List.perm_append_singleton x granted).symm.subperm
  past r hr := by
    rcases List.mem_append.1 hr with hr | hr
    · exact h.past r hr
    · rw [List.mem_singleton.1 hr]
      exact ⟨hx, le_rfl⟩
  missing r hr := by
    rcases List.mem_append.1 hr with hr | hr
    · rcases h.missing r hr with hmem | hold | hmany
      · obtain ⟨hage, ⟨l, y, m, rfl, hfor, rfl⟩ | ⟨-, kept, hkept, -, rfl⟩⟩ := ho
        · by_cases hry : r = y
          · exact .inr (.inl (by
              have := I64.lt_of_lt_saturate (h.past r hr).1 (hage r hmem (hry ▸ hfor))
              omega))
          · left
            simpa [hry, or_assoc] using (by simpa [hry] using hmem : r ∈ l ∨ r ∈ m).imp_right .inr
        · by_cases hkeep : r ∈ kept
          · exact .inl (List.mem_append_left _ hkeep)
          · -- The claims behind the rows counted, and this one, outnumber the limit.
            have hbacked := h.backed
            have hpast := (h.past r hr).2
            refine .inr (.inr ?_)
            unfold Outnumbered
            rw [List.countP_append, List.countP_append, List.countP_singleton,
              List.countP_singleton, if_pos (decide_eq_true hpast)]
            rcases hkept.gone hmem hkeep with ⟨hsender, hcount⟩ | hcount
            · have := hbacked.countP_le
                fun y => y.senderId == r.senderId && decide (r.receivedAt ≤ y.receivedAt)
              rw [if_pos (by simp [hsender, hpast])]
              omega
            · have := hbacked.countP_le fun y => decide (r.receivedAt ≤ y.receivedAt)
              omega
      · exact .inr (.inl hold)
      · exact .inr (.inr (hmany.append _))
    · obtain ⟨others, -, hperm⟩ := ho.leaves
      rw [List.mem_singleton.1 hr]
      exact .inl (hperm.mem_iff.2 List.mem_cons_self)

/-! ## Runs -/

theorem ClaimCall.answer_outcome (hb : bounds.Positive) (hkeys : DistinctKeys rows) {claimed : Bool}
    {c : Conn DedupTable} (h : call.answer bounds rows = (.ok claimed, c)) :
    Outcome bounds call.row rows claimed c.db :=
  ((tryClaimEnvelopeBoundedAt_sure _ _ hb call.reading.1 hkeys).result h).1

variable (call) in
theorem ClaimHistory.claim_cases (hb : bounds.Positive) (hkeys : DistinctKeys history.rows) :
    history.claim bounds call = history
      ∨ ∃ rows', Outcome bounds call.row history.rows true rows'
        ∧ history.claim bounds call = ⟨rows', history.granted ++ [call.row]⟩ := by
  unfold claim
  split
  · rename_i claimed c hanswer
    have ho := call.answer_outcome hb hkeys hanswer
    by_cases hcommitted : call.committed
    · cases claimed with
      | false => exact .inl (by simp [hcommitted, ho.1])
      | true => exact .inr ⟨c.db, ho, by simp [hcommitted]⟩
    · exact .inl (by simp [hcommitted])
  · exact .inl rfl

theorem claims_bounded (hb : bounds.Positive) (calls : List ClaimCall) :
    Bounded bounds (claims bounds calls).rows := by
  induction calls using List.reverseRecOn with
  | nil => exact ⟨.nil, by simpa [claims, principalCount] using hb.principal.le,
      by simpa [claims] using hb.global.le⟩
  | append_singleton calls call ih =>
    unfold claims at ih ⊢
    rw [List.foldl_append, List.foldl_cons, List.foldl_nil]
    obtain heq | ⟨rows', ho, heq⟩ := ClaimHistory.claim_cases call hb ih.keys <;> rw [heq]
    · exact ih
    · exact ho.bounded ih

def Ordered (calls : List ClaimCall) : Prop :=
  calls.Pairwise fun call call' => call.nowMs ≤ call'.nowMs

theorem claims_remembers (hb : bounds.Positive) (calls : List ClaimCall) :
    ∀ nowMs, Ordered calls → (∀ call ∈ calls, call.nowMs ≤ nowMs) →
      Remembers bounds (claims bounds calls).granted (claims bounds calls).rows nowMs := by
  induction calls using List.reverseRecOn with
  | nil => exact fun _ _ _ => ⟨List.nil_subperm, by simp [claims], by simp [claims]⟩
  | append_singleton calls call ih =>
    intro nowMs hordered hpast
    obtain ⟨hordered, -, hlast⟩ := List.pairwise_append.1 hordered
    have hbefore := ih call.nowMs hordered fun c hc => hlast c hc call (List.mem_singleton_self _)
    have hkeys := (claims_bounded hb calls).keys
    refine Remembers.later ?_ (hpast call (by simp))
    unfold claims at hbefore hkeys ⊢
    rw [List.foldl_append, List.foldl_cons, List.foldl_nil]
    obtain heq | ⟨rows', ho, heq⟩ := ClaimHistory.claim_cases call hb hkeys <;> rw [heq]
    · exact hbefore
    · exact hbefore.grant (x := call.row) call.reading.1 ho

/-- The table stays within its limits, every claim has an answer unless a statement fails, and an
envelope that has not been outnumbered within the age is answered as a duplicate. -/
theorem claims_bounded_and_remembered (bounds : DedupBounds) (hprincipal : 1 ≤ bounds.principalRows)
    (hglobal : 1 ≤ bounds.globalRows) (hage : 0 ≤ bounds.maxAgeMs) (calls : List ClaimCall) :
    (∀ principalId,
        principalCount (claims bounds calls).rows principalId ≤ bounds.principalRows)
      ∧ (claims bounds calls).rows.length ≤ bounds.globalRows
      ∧ (∀ call : ClaimCall, call.faults = [] →
          ∃ claimed c, call.answer bounds (claims bounds calls).rows = (.ok claimed, c))
      ∧ ∀ call : ClaimCall, Ordered (calls ++ [call]) →
          ∀ before r after, (claims bounds calls).granted = before ++ r :: after →
            r.senderId = call.principalId → r.envelopeId = call.envelopeId →
            call.nowMs ≤ r.receivedAt + bounds.maxAgeMs →
            (before ++ after).countP
                (fun y => y.senderId == r.senderId && r.receivedAt ≤ y.receivedAt)
              < bounds.principalRows →
            (before ++ after).countP (fun y => r.receivedAt ≤ y.receivedAt) < bounds.globalRows →
            (∀ c, call.answer bounds (claims bounds calls).rows ≠ (.ok true, c))
              ∧ (call.faults = [] →
                ∃ c, call.answer bounds (claims bounds calls).rows = (.ok false, c)) := by
  have hb : bounds.Positive := ⟨hglobal, hprincipal, hage⟩
  have hbounded := claims_bounded hb calls
  have hanswered : ∀ call : ClaimCall, call.faults = [] →
      ∃ claimed c, call.answer bounds (claims bounds calls).rows = (.ok claimed, c) := by
    intro call hfaults
    obtain ⟨claimed, rows', n', hok, -⟩ := (tryClaimEnvelopeBoundedAt_sure
      call.principalId call.envelopeId (n := 0) hb call.reading.1 hbounded.keys).ok
    exact ⟨claimed, _, by unfold ClaimCall.answer; rw [hfaults]; exact hok⟩
  refine ⟨hbounded.principal, hbounded.all, hanswered, ?_⟩
  intro call hordered before r after hgranted hsender henvelope hyoung hfewP hfew
  obtain ⟨hordered, -, hlast⟩ := List.pairwise_append.1 hordered
  have hmemory := claims_remembers hb calls call.nowMs hordered fun c hc =>
    hlast c hc call (List.mem_singleton_self _)
  have hr : r ∈ (claims bounds calls).granted := by simp [hgranted]
  have hfound : r ∈ (claims bounds calls).rows := by
    rcases hmemory.missing r hr with hmem | hold | hmany
    · exact hmem
    · omega
    · unfold Outnumbered at hmany
      rw [hgranted] at hmany
      simp only [List.countP_append, List.countP_cons, beq_self_eq_true, le_refl, decide_true,
        Bool.and_self, if_true] at hmany hfewP hfew
      omega
  have hnot : ∀ c, call.answer bounds (claims bounds calls).rows ≠ (.ok true, c) := by
    intro c hanswer
    have hlt := (call.answer_outcome hb hbounded.keys hanswer).1 r hfound
      (isFor_iff.2 ⟨hsender, henvelope⟩)
    have := I64.lt_of_lt_saturate (hmemory.past r hr).1 hlt
    change r.receivedAt < call.nowMs - _ at this
    omega
  refine ⟨hnot, fun hfaults => ?_⟩
  obtain ⟨claimed, c, hanswer⟩ := hanswered call hfaults
  cases claimed with
  | false => exact ⟨c, hanswer⟩
  | true => exact absurd hanswer (hnot c)

def smallBounds : DedupBounds := ⟨3, 2, 100⟩

def claimOf (envelopeId : String) (nowMs : ℤ) (h : I64.inRange nowMs) : ClaimCall :=
  ⟨"dev_1", envelopeId, nowMs, [], true, h⟩

theorem claimed_again_within_age : ∃ c, (claimOf "a" 100 (by decide)).answer smallBounds
    (claims smallBounds [claimOf "a" 0 (by decide), claimOf "b" 7 (by decide)]).rows
      = (.ok false, c) :=
  ((claims_bounded_and_remembered smallBounds (by decide) (by decide) (by decide)
    [claimOf "a" 0 (by decide), claimOf "b" 7 (by decide)]).2.2.2 (claimOf "a" 100 (by decide))
    (by simp [Ordered, claimOf]) [] ⟨"dev_1", "a", 0⟩ [⟨"dev_1", "b", 7⟩] (by decide +kernel) rfl rfl
    (by decide) (by decide) (by decide)).2 rfl

end Dedup

end EdgeNode
