import EdgeNode.Proofs.Tokens

/-!
# Trusted time never goes back

Every call that trusts the time raises the floor to it in the transaction of its caller, and the
floor is what instances and restarts share. So the times trusted by kept calls do not decrease, and a
token that was found expired stays behind the floor, where no later call can accept it, kept or not.
-/

namespace EdgeNode

open Tx

namespace Ops

namespace Trusting

variable {ρ : Type} {host : Host} {clock : Clock} {db db' db'' : NodeDb ρ} {w : Work ρ} {n : ℕ}
  {tokenId : String} {o : Observation} {entries new : List Entry}

def Expired (db : NodeDb ρ) (tokenId : String) : Prop :=
  ∃ row expires, db.auth.tokens.lookup tokenId = some row ∧ row.expiresAt = some expires
    ∧ expires ≤ db.auth.state.clockFloorMs

theorem Expired.later (h : Expired db tokenId) (ha : TermsKept db db') : Expired db' tokenId := by
  obtain ⟨row, expires, hrow, hexpires, hle⟩ := h
  obtain ⟨row', hrow', hsame⟩ := ha.tokens tokenId row hrow
  exact ⟨row', expires, hrow', hsame.expiry.trans hexpires, hle.trans ha.floor⟩

structure Observes (db db' : NodeDb ρ) (o : Observation) : Prop where
  times : ∀ now, o.trustedAt = some now →
    db.auth.state.clockFloorMs ≤ now ∧ now ≤ db'.auth.state.clockFloorMs
  expired : ∀ tokenId, o.token = .expired tokenId → Expired db' tokenId
  accepted : ∀ tokenId, o.token = .accepted tokenId → ¬ Expired db tokenId

theorem Observes.nothing : Observes db db' {} := ⟨by simp, by simp, by simp⟩

theorem Observes.trusted {now : ℤ} (hfloor : db.auth.state.clockFloorMs ≤ now)
    (hraised : now ≤ db'.auth.state.clockFloorMs) : Observes db db' { trustedAt := some now } :=
  ⟨by rintro _ ⟨⟩; exact ⟨hfloor, hraised⟩, by rintro _ ⟨⟩, by rintro _ ⟨⟩⟩

/-! ## One call -/

/-- A token that is held against a trusted time: found expired, it is behind the floor afterwards;
accepted, it was not before. -/
theorem judged_against_floor {row : TokenRow} {expires now : ℤ} {db₁ : NodeDb ρ}
    (hrow : db.auth.tokens.lookup tokenId = some row) (hexpires : row.expiresAt = some expires)
    (hfloor : db.auth.state.clockFloorMs ≤ now) (hraised : now ≤ db₁.auth.state.clockFloorMs)
    (htokens : db₁.auth.tokens = db.auth.tokens) :
    (expires ≤ now → Expired db₁ tokenId) ∧ (¬ expires ≤ now → ¬ Expired db tokenId) := by
  refine ⟨fun hle => ⟨row, expires, by rw [htokens, hrow], hexpires, hle.trans hraised⟩, ?_⟩
  rintro hlt ⟨row', expires', hrow', hexpires', hle⟩
  obtain rfl : row = row' := Option.some.inj (hrow.symm.trans hrow')
  obtain rfl : expires = expires' := Option.some.inj (hexpires.symm.trans hexpires')
  omega

theorem not_expired_of_unlimited {row : TokenRow}
    (hrow : db.auth.tokens.lookup tokenId = some row) (hexpires : row.expiresAt = none) :
    ¬ Expired db tokenId := by
  rintro ⟨row', expires, hrow', hexpires', -⟩
  obtain rfl : row = row' := Option.some.inj (hrow.symm.trans hrow')
  simp [hexpires] at hexpires'

theorem judgeToken_observes (plaintext : String) :
    wp (judgeToken host clock plaintext)
      (fun verdict w' _ => AuthorityKept w.db w'.db
        ∧ Observes w.db w'.db (verdictObservation verdict)
        ∧ ∀ actor, verdict.actor = some actor → ∃ tokenId row,
          w.db.auth.tokens.lookup tokenId = some row ∧ actor = row.actor tokenId)
      (fun _ w' _ => AuthorityKept w.db w'.db) w n := by
  have hrefl := AuthorityKept.refl w.db
  refine wp_bind (wp_on (wp_query hrefl ?_))
  cases hfound : tokenByHash w.db (host.sha256 plaintext) with
  | none => exact wp_pure ⟨hrefl, .nothing, by rintro _ ⟨⟩⟩
  | some found =>
    obtain ⟨tokenId, row⟩ := found
    have hrow := tokenByHash_lookup hfound
    dsimp only
    split_ifs
    · exact wp_pure ⟨hrefl, .nothing, by rintro _ ⟨⟩⟩
    refine wp_bind (wp_on (wp_query hrefl ?_))
    split_ifs
    · exact wp_pure ⟨hrefl, .nothing, by rintro _ ⟨⟩⟩
    cases hexpires : row.expiresAt with
    | some expires =>
      refine wp_bind (wp_imp trustedNow_kept ?_)
      rintro now w₁ n₁ ⟨hkept, hfloor, hraised, htokens⟩
      obtain ⟨hexpired, haccepted⟩ :=
        judged_against_floor hrow hexpires hfloor hraised htokens
      split_ifs with hle
      · exact wp_pure ⟨hkept, ⟨by rintro _ ⟨⟩; exact ⟨hfloor, hraised⟩,
          by rintro _ ⟨⟩; exact hexpired hle, by rintro _ ⟨⟩⟩, by rintro _ ⟨⟩⟩
      · refine wp_bind (wp_mono (onNode_wp (noteUse_kept row now)) ?_ ?_)
        · rintro _ w₂ n₂ ⟨-, hnoted⟩
          refine wp_pure ⟨hkept.trans hnoted, ⟨?_, by rintro _ ⟨⟩, ?_⟩, ?_⟩
          · rintro _ ⟨⟩
            exact ⟨hfloor, hraised.trans hnoted.floor⟩
          · rintro _ ⟨⟩
            exact haccepted hle
          · rintro _ ⟨⟩
            exact ⟨tokenId, row, hrow, rfl⟩
        · rintro _ w₂ n₂ ⟨-, hnoted⟩
          exact hkept.trans hnoted
    | none =>
      refine wp_bind (wp_draw ?_)
      refine wp_bind (wp_mono (onNode_wp (noteUse_kept row _)) ?_ fun _ _ _ h => h.2)
      rintro _ w₂ n₂ ⟨-, hnoted⟩
      refine wp_pure ⟨hnoted, ⟨by rintro _ ⟨⟩, by rintro _ ⟨⟩, ?_⟩, ?_⟩
      · rintro _ ⟨⟩
        exact not_expired_of_unlimited hrow hexpires
      · rintro _ ⟨⟩
        exact ⟨tokenId, row, hrow, rfl⟩

theorem unrevokedToken_lookup {row : TokenRow} (h : unrevokedToken db tokenId = some row) :
    db.auth.tokens.lookup tokenId = some row :=
  (Option.filter_eq_some_iff.1 h).1

theorem tokenStanding_observes (clockTrust : Bool) (tokenId : String) :
    wp (tokenStanding clock clockTrust tokenId)
      (fun standing w' _ => TermsKept w.db w'.db
        ∧ Observes w.db w'.db (standingObservation tokenId standing))
      (fun _ w' _ => TermsKept w.db w'.db) w n := by
  have hrefl := TermsKept.refl w.db
  refine wp_bind (wp_on (wp_query hrefl ?_))
  refine wp_bind (wp_on (wp_query hrefl ?_))
  cases hfound : unrevokedToken w.db tokenId with
  | none => exact wp_pure ⟨hrefl, .nothing⟩
  | some row =>
    have hrow := unrevokedToken_lookup hfound
    dsimp only [Option.isSome_some, Bool.not_true, Option.bind_some]
    rw [if_neg (by simp)]
    cases hexpires : row.expiresAt with
    | none =>
      refine wp_pure ⟨hrefl, ⟨by rintro _ ⟨⟩, by rintro _ ⟨⟩, ?_⟩⟩
      rintro _ ⟨⟩
      exact not_expired_of_unlimited hrow hexpires
    | some expires =>
      dsimp only
      split_ifs
      · exact wp_fail hrefl
      refine wp_bind (wp_mapError (wp_mono (trustedNowAndAdvance_wp clock w n) ?_ ?_))
      · rintro now w₁ n₁ ⟨-, hfloor, source, -, hdb⟩
        have hraised : now ≤ w₁.db.auth.state.clockFloorMs := by
          rw [hdb]
          exact le_max_right _ _
        have hadvances : TermsKept w.db w₁.db := by
          rw [hdb]
          exact .of_state (le_max_left _ _)
        obtain ⟨hexpired, haccepted⟩ :=
          judged_against_floor hrow hexpires hfloor hraised (by rw [hdb]; rfl)
        refine wp_pure ⟨hadvances, ?_⟩
        split_ifs with hle
        · exact ⟨by rintro _ ⟨⟩; exact ⟨hfloor, hraised⟩,
            by rintro _ ⟨⟩; exact hexpired hle, by rintro _ ⟨⟩⟩
        · exact ⟨by rintro _ ⟨⟩; exact ⟨hfloor, hraised⟩, by rintro _ ⟨⟩,
            by rintro _ ⟨⟩; exact haccepted hle⟩
      · rintro e w₁ n₁ ⟨hdb, -⟩
        exact .of_auth (by rw [hdb])

theorem checkpointIfDue_observes :
    wp (checkpointIfDue clock)
      (fun due w' _ => TermsKept w.db w'.db ∧ ∀ source now, due = true →
        w'.trust.state.evidence = .trusted source now →
          w.db.auth.state.clockFloorMs ≤ now ∧ now ≤ w'.db.auth.state.clockFloorMs)
      (fun _ w' _ => TermsKept w.db w'.db) w n := by
  refine wp_bind (wp_draw (wp_bind (wp_contents ?_)))
  split_ifs
  · exact wp_pure ⟨.refl _, by simp⟩
  refine wp_bind (wp_mono (trustedNowAndAdvance_wp clock w (n + 1)) ?_ ?_)
  · rintro now w₁ n₁ ⟨-, hfloor, source, hevidence, hdb⟩
    refine wp_bind (wp_modify (wp_pure ⟨?_, ?_⟩))
    · dsimp only
      rw [hdb]
      exact .of_state (le_max_left _ _)
    · rintro source' now' - hevidence'
      obtain ⟨-, rfl⟩ := (ClockEvidence.trusted.injEq _ _ _ _).mp (hevidence.symm.trans hevidence')
      refine ⟨hfloor, ?_⟩
      dsimp only
      rw [hdb]
      exact le_max_right _ _
  · rintro e w₁ n₁ ⟨hdb, -⟩
    exact .of_auth (by rw [hdb])

theorem Call.observe_wp (call : Call ρ) :
    wp (call.observe host clock)
      (fun o w' _ => TermsKept w.db w'.db ∧ Observes w.db w'.db o)
      (fun _ w' _ => TermsKept w.db w'.db) w n := by
  cases call with
  | refresh =>
    refine wp_bind (wp_mono (refresh_wp clock w n) ?_ ?_)
    · rintro _ w' n' ⟨-, -, rfl⟩
      exact wp_pure ⟨.refl _, .nothing⟩
    · rintro _ w' n' ⟨rfl, -⟩
      exact .refl _
  | trustedNow =>
    refine wp_bind (wp_mono trustedNow_kept ?_ fun _ _ _ h => h.toTermsKept)
    rintro now w' n' ⟨hkept, hfloor, hraised, -⟩
    exact wp_pure ⟨hkept.toTermsKept, .trusted hfloor hraised⟩
  | checkpoint =>
    refine wp_bind (wp_mapError (wp_imp checkpointIfDue_observes ?_))
    rintro due w' n' ⟨hkept, htime⟩
    refine wp_bind (wp_contents ?_)
    cases due with
    | false => exact wp_pure ⟨hkept, .nothing⟩
    | true =>
      cases hevidence : w'.trust.state.evidence with
      | untrusted => exact wp_pure ⟨hkept, .nothing⟩
      | trusted source now =>
        obtain ⟨hfloor, hraised⟩ := htime source now rfl hevidence
        exact wp_pure ⟨hkept, .trusted hfloor hraised⟩
  | authenticate plaintext =>
    exact wp_bind (wp_mono (judgeToken_observes plaintext)
      (fun _ _ _ h => wp_pure ⟨h.1.toTermsKept, h.2.1⟩) fun _ _ _ h => h.toTermsKept)
  | checkToken clockTrust tokenId =>
    exact wp_bind (wp_mapError (wp_imp (tokenStanding_observes clockTrust tokenId)
      fun _ _ _ h => wp_pure h))
  | issue token auditActor auditSource trust =>
    refine wp_bind ?_
    unfold issueTokenTimed
    split_ifs
    · exact wp_fail (.refl _)
    · refine wp_bind (wp_mono trustedNow_kept ?_ fun _ _ _ h => h.toTermsKept)
      rintro now w₁ n₁ ⟨hkept, hfloor, hraised, -⟩
      refine wp_bind (wp_mono (onNode_wp (issueTokenAt_kept token auditActor auditSource now))
        ?_ fun _ _ _ h => (hkept.trans h.2).toTermsKept)
      rintro issued w₂ n₂ ⟨-, hissued⟩
      exact wp_pure (wp_pure ⟨(hkept.trans hissued).toTermsKept,
        .trusted hfloor (hraised.trans hissued.floor)⟩)
    · exact wp_fail (.refl _)
    · refine wp_bind (wp_draw (wp_bind (wp_mono
        (onNode_wp (issueTokenAt_kept token auditActor auditSource _)) ?_
          fun _ _ _ h => h.2.toTermsKept)))
      rintro issued w₂ n₂ ⟨-, hissued⟩
      exact wp_pure (wp_pure ⟨hissued.toTermsKept, .nothing⟩)
  | issueSession name ceiling ttlMs auditActor auditSource =>
    refine wp_bind ?_
    unfold issueSessionTokenTimed
    split_ifs
    · exact wp_fail (.refl _)
    refine wp_bind (wp_mono trustedNow_kept ?_ fun _ _ _ h => h.toTermsKept)
    rintro now w₁ n₁ ⟨hkept, hfloor, hraised, -⟩
    cases I64.checkedAdd now ttlMs with
    | none => exact wp_fail hkept.toTermsKept
    | some expiresAt =>
      refine wp_bind (wp_mono (onNode_wp (issueTokenAt_kept _ auditActor auditSource now))
        ?_ fun _ _ _ h => (hkept.trans h.2).toTermsKept)
      rintro issued w₂ n₂ ⟨-, hissued⟩
      exact wp_pure (wp_pure ⟨(hkept.trans hissued).toTermsKept,
        .trusted hfloor (hraised.trans hissued.floor)⟩)
  | revoke tokenId auditActor =>
    refine wp_bind (wp_mono (onNode_wp (revokeToken_kept tokenId auditActor)) ?_
      fun _ _ _ h => h.2.toTermsKept)
    rintro _ w' n' ⟨-, hkept⟩
    exact wp_pure ⟨hkept.toTermsKept, .nothing⟩
  | elsewhere change =>
    refine wp_bind (wp_on (wp_modify (wp_pure ⟨?_, .nothing⟩)))
    exact .of_tokens le_rfl rfl

theorem Call.attempted_wp (call : Call ρ) {E : OpsError → Work ρ → ℕ → Prop} :
    wp (call.attempted host clock)
      (fun o w' _ => TermsKept w.db w'.db ∧ Observes w.db w'.db o) E w n := by
  refine wp_bind (wp_attempt (wp_mono call.observe_wp ?_ ?_))
  · intro o w' n' h
    exact wp_pure h
  · intro e w' n' h
    exact wp_pure ⟨h, .nothing⟩

/-! ## Transactions -/

structure Settled (db : NodeDb ρ) (entries : List Entry) : Prop where
  times : ((entries.filter Entry.committed).filterMap fun e => e.trustedAt).Pairwise (· ≤ ·)
  below : ∀ e ∈ entries, e.committed → ∀ now, e.trustedAt = some now →
    now ≤ db.auth.state.clockFloorMs
  expired : ∀ e ∈ entries, e.committed → ∀ tokenId, e.token = .expired tokenId → Expired db tokenId
  final : entries.Pairwise fun e e' => ∀ tokenId, e.committed → e.token = .expired tokenId →
    e'.token ≠ .accepted tokenId

theorem Settled.empty : Settled db [] := ⟨by simp, by simp, by simp, by simp⟩

theorem Settled.later (h : Settled db entries) (ha : TermsKept db db') : Settled db' entries where
  times := h.times
  below e he hc now hnow := (h.below e he hc now hnow).trans ha.floor
  expired e he hc tokenId htoken := (h.expired e he hc tokenId htoken).later ha
  final := h.final

def Honest (db : NodeDb ρ) (entries : List Entry) : Prop :=
  ∀ e ∈ entries, ∀ tokenId, e.token = .accepted tokenId → ¬ Expired db tokenId

theorem Settled.dropped (h : Settled db entries) (hnew : Honest db new)
    (hdropped : ∀ e ∈ new, e.committed = false) : Settled db (entries ++ new) where
  times := by
    have hnone : new.filter Entry.committed = [] :=
      List.filter_eq_nil_iff.2 fun e he => by simp [hdropped e he]
    rw [List.filter_append, hnone, List.append_nil]
    exact h.times
  below e he hc := by
    rcases List.mem_append.1 he with he | he
    · exact h.below e he hc
    · simp [hdropped e he] at hc
  expired e he hc := by
    rcases List.mem_append.1 he with he | he
    · exact h.expired e he hc
    · simp [hdropped e he] at hc
  final := by
    refine List.pairwise_append.2 ⟨h.final, ?_, ?_⟩
    · refine List.pairwise_of_forall_mem_list fun e he e' _ tokenId hc => ?_
      simp [hdropped e he] at hc
    · intro e he e' he' tokenId hc hexpired haccepted
      exact hnew e' he' tokenId haccepted (h.expired e he hc tokenId hexpired)

theorem Settled.concat (h : Settled db entries) (ha : TermsKept db db') (ho : Observes db db' o) :
    Settled db' (entries ++ [{ o with committed := true }]) where
  times := by
    rw [List.filter_append, List.filterMap_append]
    refine List.pairwise_append.2 ⟨h.times, ?_, ?_⟩
    · rcases o with ⟨_ | _, _⟩ <;> simp
    · intro now hnow now' hnow'
      obtain ⟨e, he, hat⟩ := List.mem_filterMap.1 hnow
      obtain ⟨he, hc⟩ := List.mem_filter.1 he
      have hnow' : o.trustedAt = some now' := by simpa using hnow'
      exact (h.below e he hc now hat).trans (ho.times now' hnow').1
  below e he hc now hnow := by
    rcases List.mem_append.1 he with he | he
    · exact (h.below e he hc now hnow).trans ha.floor
    · obtain rfl := List.mem_singleton.1 he
      exact (ho.times now hnow).2
  expired e he hc tokenId htoken := by
    rcases List.mem_append.1 he with he | he
    · exact (h.expired e he hc tokenId htoken).later ha
    · obtain rfl := List.mem_singleton.1 he
      exact ho.expired tokenId htoken
  final := by
    refine List.pairwise_append.2 ⟨h.final, by simp, ?_⟩
    intro e he e' he' tokenId hc hexpired haccepted
    obtain rfl := List.mem_singleton.1 he'
    exact ho.accepted tokenId haccepted (h.expired e he hc tokenId hexpired)

theorem Honest.earlier (h : Honest db' entries) (ha : TermsKept db db') : Honest db entries :=
  fun e he tokenId htoken hexpired => h e he tokenId htoken (hexpired.later ha)

/-- What a stretch of a transaction leaves: the entries before it and its own in order, and its own
against the contents it began with. -/
structure Extends (db : NodeDb ρ) (entries new : List Entry) (db' : NodeDb ρ) : Prop where
  advances : TermsKept db db'
  honest : Honest db new
  settled : Settled db' (entries ++ new)

theorem Extends.nil (h : Settled db entries) : Extends db entries [] db :=
  ⟨.refl db, by simp [Honest], by rwa [List.append_nil]⟩

theorem Extends.concat (h : Extends db entries new db') (ha : TermsKept db' db'')
    (ho : Observes db' db'' o) :
    Extends db entries (new ++ [{ o with committed := true }]) db'' where
  advances := h.advances.trans ha
  honest e he tokenId htoken hexpired := by
    rcases List.mem_append.1 he with he | he
    · exact h.honest e he tokenId htoken hexpired
    · obtain rfl := List.mem_singleton.1 he
      exact ho.accepted tokenId htoken (hexpired.later h.advances)
  settled := by
    rw [← List.append_assoc]
    exact h.settled.concat ha ho

theorem Extends.append {new' : List Entry} (h : Extends db entries new db')
    (h' : Extends db' (entries ++ new) new' db'') : Extends db entries (new ++ new') db'' where
  advances := h.advances.trans h'.advances
  honest e he tokenId htoken := by
    rcases List.mem_append.1 he with he | he
    · exact h.honest e he tokenId htoken
    · exact (h'.honest.earlier h.advances) e he tokenId htoken
  settled := by
    rw [← List.append_assoc]
    exact h'.settled

theorem Extends.undone (hs : Settled db entries) (h : Extends db entries new db') :
    Extends db entries (new.map fun e => { e with committed := false }) db := by
  have hhonest : Honest db (new.map fun e => { e with committed := false }) := by
    intro e he
    obtain ⟨e', he', rfl⟩ := List.mem_map.1 he
    exact h.honest e' he'
  refine ⟨.refl db, hhonest, hs.dropped hhonest fun e he => ?_⟩
  obtain ⟨e', -, rfl⟩ := List.mem_map.1 he
  rfl

theorem Group.run_wp (group : Group ρ) {E : OpsError → Work ρ → ℕ → Prop}
    (h : Settled w.db entries) :
    wp (group.run host clock) (fun new w' _ => Extends w.db entries new w'.db) E w n := by
  have hcalls : wp (Tx.traverse (Call.attempted host clock) group.calls)
      (fun os w' _ => Extends w.db entries (os.map fun o => { o with committed := true }) w'.db)
      E w n := by
    refine wp_traverse_results (I := fun (os : List Observation) _ (w' : Work ρ) _ =>
      Extends w.db entries (os.map fun o => { o with committed := true }) w'.db)
      (fun os call rest w' n' hw => ?_) [] (.nil h)
    refine wp_imp call.attempted_wp fun o w'' n'' ⟨ha, ho⟩ => ?_
    rw [List.map_append]
    exact hw.concat ha ho
  refine wp_bind (wp_contents (wp_bind (wp_imp hcalls fun os w' n' hw => ?_)))
  split_ifs
  · exact wp_pure hw
  · refine wp_bind (wp_modify (wp_pure ?_))
    have hundone := hw.undone h
    rwa [List.map_map] at hundone

variable (host clock) in
theorem runGroups_wp (groups : List (Group ρ)) (h : Settled w.db entries) :
    wp (runGroups host clock groups) (fun new w' _ => Extends w.db entries new w'.db)
      (fun _ _ _ => True) w n := by
  refine wp_bind (wp_imp (wp_traverse_results (I := fun news _ (w' : Work ρ) _ =>
    Extends w.db entries news.flatten w'.db) (fun news group rest w' n' hw => ?_) [] (.nil h))
    fun news w' n' hw => wp_pure hw)
  refine wp_imp (group.run_wp hw.settled) fun new w'' n'' hnew => ?_
  rw [List.flatten_append, List.flatten_singleton]
  exact hw.append hnew

variable (host clock db) in
theorem confirmTimeWithClock_advances (displayedAtMs : ℤ) :
    wp (confirmTimeWithClock host clock displayedAtMs) (fun _ db' _ => TermsKept db db')
      (fun _ db' _ => TermsKept db db') db n := by
  have hrefl := TermsKept.refl db
  refine wp_transaction hrefl ?_
  refine wp_bind (wp_query hrefl (wp_bind (wp_draw ?_)))
  dsimp only
  split_ifs
  · exact wp_fail hrefl
  refine wp_bind (wp_exec hrefl (wp_bind (wp_mono (recordEvent_kept _ _ _) ?_ ?_)))
  · intro _ db' n' hevent
    exact wp_pure ⟨TermsKept.trans (.of_state le_rfl) hevent.toTermsKept, hrefl⟩
  · intro _ db' n' _
    exact hrefl

variable (host clock) in
theorem System.step_settled (s : System ρ) (e : Event ρ) (h : Settled s.db s.entries) :
    TermsKept s.db (s.step host clock e).db
      ∧ Settled (s.step host clock e).db (s.step host clock e).entries := by
  cases e with
  | transaction i groups kept faults =>
    have hspec := runGroups_wp host clock (w := ⟨s.db, s.trusts i⟩) (n := s.draws) groups h faults
    unfold step
    dsimp only
    rcases hr : runGroups host clock groups ⟨⟨s.db, s.trusts i⟩, faults, s.draws⟩ with
      ⟨err | new, after⟩ <;> rw [hr] at hspec
    · exact ⟨.refl _, h⟩
    · cases kept with
      | true => exact ⟨hspec.advances, hspec.settled⟩
      | false => exact ⟨.refl _, (hspec.undone h).settled⟩
  | confirm displayedAtMs faults =>
    have hspec := confirmTimeWithClock_advances host clock s.db displayedAtMs (n := s.draws) faults
    unfold step
    dsimp only
    rcases hr : confirmTimeWithClock host clock displayedAtMs ⟨s.db, faults, s.draws⟩ with
      ⟨err | _, after⟩ <;> rw [hr] at hspec <;> exact ⟨hspec, h.later hspec⟩
  | reset hasher phc auditActor faults =>
    have hspec := wp_mono (E := fun _ db' _ => TermsKept s.db db')
      (resetPassphraseWithHash_wp host s.db hasher phc auditActor (n := s.draws))
      (fun _ _ _ h => h.1) (fun _ _ _ h => h ▸ TermsKept.refl _) faults
    unfold step
    dsimp only
    rcases hr : resetPassphraseWithHash host hasher phc auditActor ⟨s.db, faults, s.draws⟩ with
      ⟨err | _, after⟩ <;> rw [hr] at hspec <;> exact ⟨hspec, h.later hspec⟩
  | restart i backwardToleranceMs checkpointIntervalMs faults =>
    unfold step
    dsimp only
    split <;> exact ⟨.refl _, h⟩

variable (host clock) in
theorem run_settled (events : List (Event ρ)) :
    ∀ s : System ρ, Settled s.db s.entries →
      TermsKept s.db (events.foldl (System.step host clock) s).db
        ∧ Settled (events.foldl (System.step host clock) s).db
          (events.foldl (System.step host clock) s).entries := by
  induction events with
  | nil => exact fun s h => ⟨.refl _, h⟩
  | cons e events ih =>
    intro s h
    obtain ⟨hadvances, hsettled⟩ := s.step_settled host clock e h
    obtain ⟨hadvances', hsettled'⟩ := ih _ hsettled
    exact ⟨hadvances.trans hadvances', hsettled'⟩

/-- From any database and any instances: the floor never falls, the times trusted by kept calls do
not decrease, and after a kept call has found a token expired no call accepts it. -/
theorem trusted_time_never_goes_back (host : Host) (clock : Clock) (db : NodeDb ρ)
    (trusts : ℕ → ClockTrust) (draws : ℕ) (events later : List (Event ρ)) :
    let s := events.foldl (System.step host clock) ⟨db, trusts, draws, []⟩
    s.db.auth.state.clockFloorMs
        ≤ (later.foldl (System.step host clock) s).db.auth.state.clockFloorMs
      ∧ ((s.entries.filter Entry.committed).filterMap fun e => e.trustedAt).Pairwise (· ≤ ·)
      ∧ ∀ before e between e' after tokenId,
        s.entries = before ++ e :: (between ++ e' :: after) → e.committed →
          e.token = .expired tokenId → e'.token ≠ .accepted tokenId := by
  intro s
  obtain ⟨-, hsettled⟩ := run_settled host clock events
    ⟨db, trusts, draws, []⟩ .empty
  refine ⟨(run_settled host clock later s hsettled).1.floor, hsettled.times, ?_⟩
  intro before e between e' after tokenId heq
  have hfinal := hsettled.final
  rw [show (events.foldl (System.step host clock) ⟨db, trusts, draws, []⟩).entries
    = before ++ e :: (between ++ e' :: after) from heq] at hfinal
  have hpair := (List.pairwise_cons.1 (List.pairwise_append.1 hfinal).2.1).1 e' (by simp)
  exact hpair tokenId

end Trusting

end Ops

end EdgeNode
