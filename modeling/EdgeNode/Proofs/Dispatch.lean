import EdgeNode.Ops.TokenOps
import EdgeNode.Proofs.Confirmation

/-!
# Dispatch

Every check reads the contents of the transaction the operation is run in, and only the check of a
token's expiry writes there: it raises the floor of trusted time. What follows is kept or rolled back
as a whole, and the audit event is the last write before the commit.
-/

namespace EdgeNode

open Tx

namespace Ops

variable {ρ : Type} {clock : Clock} {host : Host} {db db' db'' : NodeDb ρ} {w : Work ρ}
  {j : Journal ρ} {n : ℕ} {descriptor : OpDescriptor ρ} {request : DispatchRequest}
  {secretDir : Option String}

/-! ## The checks -/

def ClockAdvanced (db db' : NodeDb ρ) : Prop :=
  db' = db ∨ ∃ source now, db.auth.state.clockFloorMs ≤ now
    ∧ db' = setAuthState (advancedTo source now) db

/-- The token of an actor in the given contents: not revoked, of the generation in force, and not
expired at the time the clock is trusted for. -/
def Stands (db : NodeDb ρ) (trust : ClockTrust) (tokenId : String) : Prop :=
  ∃ row, db.auth.tokens.lookup tokenId = some row ∧ row.revokedAt = none
    ∧ row.authGeneration = db.auth.state.authGeneration
    ∧ ∀ expires, row.expiresAt = some expires →
      ∃ source now, trust.state.evidence = .trusted source now ∧ now < expires

theorem unrevokedToken_eq_some {tokenId : String} {row : TokenRow} :
    unrevokedToken db tokenId = some row ↔ db.auth.tokens.lookup tokenId = some row
      ∧ row.revokedAt = none ∧ row.authGeneration = db.auth.state.authGeneration := by
  unfold unrevokedToken
  rw [Option.filter_eq_some_iff]
  simp

theorem tokenStanding_wp (clockTrust : Bool) (tokenId : String) :
    wp (tokenStanding clock clockTrust tokenId)
      (fun standing w' _ => ClockAdvanced w.db w'.db
        ∧ ∀ now, standing = .stands now → Stands w'.db w'.trust tokenId)
      (fun _ w' _ => ClockAdvanced w.db w'.db) w n := by
  refine wp_bind (wp_on (wp_query (.inl rfl) ?_))
  refine wp_bind (wp_on (wp_query (.inl rfl) ?_))
  cases hfound : unrevokedToken w.db tokenId with
  | none => exact wp_pure ⟨.inl rfl, by simp⟩
  | some row =>
    obtain ⟨hrow, hrevoked, hgeneration⟩ := unrevokedToken_eq_some.1 hfound
    dsimp only [Option.isSome_some, Bool.not_true, Option.bind_some]
    rw [if_neg (by simp)]
    cases hexpires : row.expiresAt with
    | none =>
      refine wp_pure ⟨.inl rfl, fun now _ => ⟨row, hrow, hrevoked, hgeneration, ?_⟩⟩
      simp [hexpires]
    | some expires =>
      dsimp only
      split_ifs
      · exact wp_fail (.inl rfl)
      refine wp_bind (wp_mapError (wp_mono (trustedNowAndAdvance_wp clock w n) ?_ ?_))
      · rintro now w' n' ⟨-, hfloor, source, hevidence, hdb⟩
        refine wp_pure ⟨.inr ⟨source, now, hfloor, hdb⟩, fun now' hstands => ?_⟩
        split_ifs at hstands with hle
        refine ⟨row, by rw [hdb]; exact hrow, hrevoked, by rw [hdb]; exact hgeneration, ?_⟩
        intro expires' hexpires'
        obtain rfl : expires = expires' := Option.some.inj (hexpires.symm.trans hexpires')
        exact ⟨source, now, hevidence, by omega⟩
      · rintro e w' n' ⟨hdb, -⟩
        exact .inl hdb

structure Permitted (descriptor : OpDescriptor ρ) (request : DispatchRequest) (db : NodeDb ρ)
    (trust : ClockTrust) : Prop where
  scope : request.actor.actorKind = .system → descriptor.name = positionalInventoryReconcileOp
  token : request.actor.actorKind = .human ∨ request.actor.actorKind = .ai →
    Stands db trust request.actor.actorId
  tier : descriptor.effectiveTier request.params ≤ request.actor.tierCeiling
  stepUp : descriptor.effectiveTier request.params = .construction → request.stepUpVerified = true
  secret : descriptor.secretExecute.isSome → request.dryRun = false →
    request.actor.actorKind = .localCli

theorem requireActor_wp :
    wp (requireActor clock request)
      (fun _ w' _ => ClockAdvanced w.db w'.db
        ∧ (request.actor.actorKind = .human ∨ request.actor.actorKind = .ai →
          Stands w'.db w'.trust request.actor.actorId))
      (fun _ w' _ => ClockAdvanced w.db w'.db) w n := by
  unfold requireActor
  split_ifs with hkind
  · refine wp_bind (wp_imp (tokenStanding_wp _ _) ?_)
    rintro standing w' n' ⟨hclock, hstands⟩
    cases standing with
    | gone | expired => exact wp_fail hclock
    | stands now => exact wp_pure ⟨hclock, fun _ => hstands now rfl⟩
  · exact wp_pure ⟨.inl rfl, fun h => absurd h hkind⟩

theorem authorise_wp :
    wp (authorise clock descriptor request)
      (fun _ w' _ => ClockAdvanced w.db w'.db ∧ Permitted descriptor request w'.db w'.trust)
      (fun _ w' _ => ClockAdvanced w.db w'.db) w n := by
  unfold authorise
  dsimp only
  by_cases hscope : request.actor.actorKind = .system
      ∧ descriptor.name ≠ positionalInventoryReconcileOp
  · rw [if_pos hscope]
    exact wp_fail (.inl rfl)
  rw [if_neg hscope]
  refine wp_bind (wp_imp requireActor_wp ?_)
  rintro _ w' n' ⟨hclock, htoken⟩
  split_ifs with htier hstep hsecret
  · exact wp_fail hclock
  · exact wp_fail hclock
  · exact wp_fail hclock
  · refine wp_ofExcept (fun _ _ => ⟨hclock, ?_⟩) fun _ _ => hclock
    refine ⟨fun hsystem => ?_, htoken, Tier.not_lt.1 htier, fun htop => ?_, fun hsome hdry => ?_⟩
    · by_contra hname
      exact hscope ⟨hsystem, hname⟩
    · by_contra hverified
      exact hstep ⟨htop, by simpa using hverified⟩
    · by_contra hkind
      exact hsecret ⟨hsome, by simp [hdry], hkind⟩

/-! ## The operation in its savepoint -/

def executionOf (descriptor : OpDescriptor ρ) (request : DispatchRequest) (w : Work ρ) :
    Execution ρ :=
  ⟨descriptor.name, request.actor, descriptor.effectiveTier request.params,
    request.stepUpVerified, w.db, w.trust⟩

def bumped (db : NodeDb ρ) : NodeDb ρ :=
  { db with ledger := { db.ledger with generation := some (db.ledger.generation.elim 1 (· + 1)) } }

/-- The operation was run on `w` and ended with `result`, and `db'` is what it left, with the
generation raised once when it changes state. -/
def Effected (descriptor : OpDescriptor ρ) (context : OpContext) (w : Work ρ)
    (result : DispatchResult) (db' : NodeDb ρ) : Prop :=
  ∃ faults n w' rest n',
    runOperation descriptor context ⟨w, faults, n⟩ = (.ok result, ⟨w', rest, n'⟩)
    ∧ db' = if descriptor.changesState then bumped w'.db else w'.db

theorem bumpGeneration_wp :
    wp (onNode ((onLedger Ledger.bumpGeneration).mapError fun _ => OpError.storage))
      (fun _ w' _ => w'.db = bumped w.db)
      (fun _ w' _ => w'.db = w.db ∨ w'.db = bumped w.db) w n := by
  unfold onNode onLedger
  refine wp_on (wp_mapError (wp_on (wp_mapError ?_)))
  exact wp_bind (wp_exec (.inl rfl) (wp_query (.inr rfl) rfl))

theorem onWork_wp {ε α : Type} {m : Tx (Work ρ) ε α} {Q : α → Work ρ → ℕ → Prop}
    {E : ε → Work ρ → ℕ → Prop} (h : wp m Q E j.toWork n) :
    wp (onWork m) (fun a j' n' => j'.executions = j.executions ∧ Q a j'.toWork n')
      (fun e j' n' => j'.executions = j.executions ∧ E e j'.toWork n') j n :=
  wp_on (wp_mono h (fun _ _ _ hQ => ⟨rfl, hQ⟩) fun _ _ _ hE => ⟨rfl, hE⟩)

theorem preconditions_journal (context : OpContext) :
    wp (onWork (descriptor.preconditions context)) (fun _ j' _ => j' = j) (fun _ j' _ => j' = j)
      j n :=
  wp_on (wp_mono (descriptor.preconditions_read context _ _) (fun _ _ _ h => by rw [h])
    fun _ _ _ h => by rw [h])

theorem perform_effected (context : OpContext) :
    wp (perform descriptor request context)
      (fun result j' _ => request.dryRun = false →
        Effected descriptor context j.toWork result j'.db)
      (fun _ _ _ => True) j n := by
  unfold perform
  refine wp_bind (wp_mono (preconditions_journal context) ?_ fun _ _ _ _ => trivial)
  rintro _ _ n₁ rfl
  by_cases hdry : request.dryRun = true
  · rw [if_pos hdry]
    refine wp_bind (wp_mono (wp_trivial _) ?_ fun _ _ _ _ => trivial)
    exact fun _ _ _ _ => wp_pure fun hwet => by simp [hdry] at hwet
  rw [if_neg hdry]
  refine wp_bind (wp_modify (wp_bind (wp_mono (onWork_wp (wp_run _)) ?_ fun _ _ _ _ => trivial)))
  rintro result j₂ n₂ ⟨-, faults, rest, hrun⟩
  by_cases hchanges : descriptor.changesState = true
  · rw [if_pos hchanges]
    refine wp_bind (wp_mono (onWork_wp bumpGeneration_wp) ?_ fun _ _ _ _ => trivial)
    rintro _ j₃ n₃ ⟨-, hbumped⟩
    refine wp_pure fun _ => ?_
    exact ⟨faults, _, _, rest, _, hrun, by rw [if_pos hchanges, hbumped]⟩
  · rw [if_neg hchanges]
    refine wp_pure fun _ => ?_
    exact ⟨faults, _, _, rest, _, hrun, by rw [if_neg hchanges]⟩

section Savepoint

variable {m : Tx (Journal ρ) OpError DispatchResult} {dryRun : Bool}

theorem inSavepoint_wp {Q : DispatchResult → Journal ρ → ℕ → Prop}
    {E : OpError → Journal ρ → ℕ → Prop}
    (h : wp m (fun result j' n' => Q result (if dryRun then j.undo j' else j') n')
      (fun e j' n' => E e (j.undo j') n') j n) :
    wp (inSavepoint {} dryRun m) Q E j n := by
  unfold inSavepoint
  refine wp_bind (wp_contents (wp_bind (wp_attempt (wp_mono h ?_ ?_))))
  · intro result j' n' hQ
    cases dryRun with
    | true => exact wp_bind (wp_modify (wp_ofExcept (by rintro _ ⟨⟩; exact hQ) (by simp)))
    | false => exact wp_ofExcept (by rintro _ ⟨⟩; exact hQ) (by simp)
  · intro e j' n' hE
    cases dryRun <;> exact wp_bind (wp_modify (wp_ofExcept (by simp) (by rintro _ ⟨⟩; exact hE)))

theorem inSavepoint_invariant (faults : SavepointFaults) {I : Journal ρ → Prop}
    (hundo : ∀ j', I j' → I (j.undo j')) (hfirst : I j)
    (h : wp m (fun _ j' _ => I j') (fun _ j' _ => I j') j n) :
    wp (inSavepoint faults dryRun m) (fun _ j' _ => I j') (fun _ j' _ => I j') j n := by
  unfold inSavepoint
  by_cases hsavepoint : faults.savepoint = true
  · rw [if_pos hsavepoint]
    exact wp_fail hfirst
  rw [if_neg hsavepoint]
  have hrelease : ∀ (result : Except OpError DispatchResult) (j' : Journal ρ) (n' : ℕ),
      I j' → wp (if faults.release then Tx.fail .storage else Tx.ofExcept result)
        (fun _ j' _ => I j') (fun _ j' _ => I j') j' n' := by
    intro result j' n' hI
    split_ifs
    · exact wp_fail hI
    · exact wp_ofExcept (fun _ _ => hI) fun _ _ => hI
  refine wp_bind (wp_contents (wp_bind (wp_attempt (wp_mono h ?_ ?_))))
  all_goals
    intro _ j' n' hI
    split
    · by_cases hrollback : faults.rollbackTo = true
      · rw [if_pos hrollback]
        exact wp_fail hI
      · rw [if_neg hrollback]
        exact wp_bind (wp_modify (hrelease _ (j.undo j') n' (hundo j' hI)))
    · exact hrelease _ j' n' hI

end Savepoint

/-! ## The whole call -/

structure Authorised (descriptor : OpDescriptor ρ) (request : DispatchRequest) (e : Execution ρ) :
    Prop where
  noted : e = executionOf descriptor request ⟨e.db, e.trust⟩
  wet : request.dryRun = false
  permitted : Permitted descriptor request e.db e.trust

structure Keeps (R : NodeDb ρ → NodeDb ρ → Prop) (custody : Tx (NodeDb ρ) OpError Unit)
    (descriptor : OpDescriptor ρ) : Prop where
  refl : ∀ db, R db db
  trans : ∀ {db db' db''}, R db db' → R db' db'' → R db db''
  clock : ∀ {db db'}, ClockAdvanced db db' → R db db'
  bumped : ∀ db, R db (bumped db)
  events : ∀ db events, R db (withEvents db events)
  custody : ∀ db n, wp custody (fun _ db' _ => R db db') (fun _ db' _ => R db db') db n
  dryRun : ∀ context w n, wp (descriptor.dryRun context) (fun _ w' _ => R w.db w'.db)
    (fun _ w' _ => R w.db w'.db) w n
  run : ∀ context w n, wp (runOperation descriptor context) (fun _ w' _ => R w.db w'.db)
    (fun _ w' _ => R w.db w'.db) w n

structure Ran (R : NodeDb ρ → NodeDb ρ → Prop) (descriptor : OpDescriptor ρ)
    (request : DispatchRequest) (j j' : Journal ρ) : Prop where
  kept : R j.db j'.db
  executions : ∃ new, j'.executions = j.executions ++ new
    ∧ ∀ e ∈ new, Authorised descriptor request e ∧ R j.db e.db

section Keeps

variable {R : NodeDb ρ → NodeDb ρ → Prop} {custody : Tx (NodeDb ρ) OpError Unit}
  {j₀ : Journal ρ}

theorem Ran.refl (hR : Keeps R custody descriptor) (j : Journal ρ) : Ran R descriptor request j j :=
  ⟨hR.refl _, [], by simp, by simp⟩

theorem Ran.step {j' : Journal ρ} (h : Ran R descriptor request j₀ j)
    (hnone : j'.executions = j.executions) (hkept : R j₀.db j'.db) :
    Ran R descriptor request j₀ j' :=
  ⟨hkept, by rw [hnone]; exact h.executions⟩

theorem Ran.noted (h : Ran R descriptor request j₀ j)
    (hwet : request.dryRun = false) (hpermitted : Permitted descriptor request j.db j.trust) :
    Ran R descriptor request j₀
      { j with executions := j.executions ++ [executionOf descriptor request j.toWork] } := by
  obtain ⟨new, hnew, hall⟩ := h.executions
  refine ⟨h.kept, new ++ [executionOf descriptor request j.toWork], ?_, ?_⟩
  · dsimp only
    rw [hnew, List.append_assoc]
  · intro e he
    rcases List.mem_append.1 he with he | he
    · exact hall e he
    · obtain rfl := List.mem_singleton.1 he
      exact ⟨⟨rfl, hwet, hpermitted⟩, h.kept⟩

theorem onWork_ran {α : Type} {m : Tx (Work ρ) OpError α} (hR : Keeps R custody descriptor)
    (h : Ran R descriptor request j₀ j)
    (hm : wp m (fun _ w' _ => R j.db w'.db) (fun _ w' _ => R j.db w'.db) j.toWork n) :
    wp (onWork m) (fun _ j' _ => Ran R descriptor request j₀ j')
      (fun _ j' _ => Ran R descriptor request j₀ j') j n :=
  wp_mono (onWork_wp hm) (fun _ _ _ h' => h.step h'.1 (hR.trans h.kept h'.2))
    fun _ _ _ h' => h.step h'.1 (hR.trans h.kept h'.2)

theorem perform_ran (hR : Keeps R custody descriptor) (context : OpContext)
    (h : Ran R descriptor request j₀ j) (hpermitted : Permitted descriptor request j.db j.trust) :
    wp (perform descriptor request context) (fun _ j' _ => Ran R descriptor request j₀ j')
      (fun _ j' _ => Ran R descriptor request j₀ j') j n := by
  unfold perform
  refine wp_bind (wp_mono (preconditions_journal context) ?_ ?_)
  · rintro _ _ n₁ rfl
    by_cases hdry : request.dryRun = true
    · rw [if_pos hdry]
      refine wp_bind (wp_imp (onWork_ran hR h (hR.dryRun context _ _)) ?_)
      exact fun _ _ _ h' => wp_pure h'
    rw [if_neg hdry]
    have hnoted := h.noted (by simpa using hdry) hpermitted
    refine wp_bind (wp_modify (wp_bind (wp_imp (onWork_ran hR hnoted (hR.run context _ _)) ?_)))
    intro value j₂ n₂ h₂
    split_ifs
    · refine wp_bind (wp_imp (onWork_ran hR h₂ (wp_mono bumpGeneration_wp ?_ ?_)) ?_)
      · intro _ w' _ hbumped
        rw [hbumped]
        exact hR.bumped _
      · rintro _ w' _ (hsame | hbumped)
        · rw [hsame]
          exact hR.refl _
        · rw [hbumped]
          exact hR.bumped _
      · exact fun _ _ _ h' => wp_pure h'
    · exact wp_pure h₂
  · rintro e _ n₁ rfl
    exact h

theorem decideAndPerform_ran (hR : Keeps R custody descriptor) (faults : SavepointFaults)
    (h : Ran R descriptor request j₀ j) :
    wp (decideAndPerform clock faults descriptor request secretDir)
      (fun _ j' _ => Ran R descriptor request j₀ j')
      (fun _ j' _ => Ran R descriptor request j₀ j') j n := by
  refine wp_bind (wp_mono (onWork_wp authorise_wp) ?_ ?_)
  · rintro _ j₁ n₁ ⟨hnone, hclock, hpermitted⟩
    have h₁ := h.step hnone (hR.trans h.kept (hR.clock hclock))
    refine inSavepoint_invariant faults ?_ h₁ (perform_ran hR _ h₁ hpermitted)
    exact fun j' h' => h'.step rfl h₁.kept
  · rintro _ j₁ n₁ ⟨hnone, hclock⟩
    exact h.step hnone (hR.trans h.kept (hR.clock hclock))

theorem reconcileTlsCustody_ran (hR : Keeps R custody descriptor)
    (h : Ran R descriptor request j₀ j) :
    wp (reconcileTlsCustody custody request secretDir)
      (fun _ j' _ => Ran R descriptor request j₀ j')
      (fun _ j' _ => Ran R descriptor request j₀ j') j n := by
  unfold reconcileTlsCustody
  split_ifs
  · exact onWork_ran hR h (wp_on (wp_mapError (hR.custody _ _)))
  · exact wp_pure h

theorem recordAudit_ran (hR : Keeps R custody descriptor) (h : Ran R descriptor request j₀ j)
    (result : Except OpError DispatchResult) :
    wp (recordAudit host descriptor request result)
      (fun _ j' _ => Ran R descriptor request j₀ j')
      (fun _ j' _ => Ran R descriptor request j₀ j') j n := by
  refine onWork_ran hR h (wp_on (wp_mapError (wp_mono (recordEvent_wp _ _ _) ?_ ?_)))
  · rintro _ db' _ ⟨-, events, -, rfl⟩
    exact hR.events _ _
  · rintro _ db' _ ⟨-, rfl⟩
    exact hR.refl _

theorem abandoned_ran (hR : Keeps R custody descriptor) (e : OpError)
    (hbefore : R j₀.db j.db) {j₁ : Journal ρ} (h : Ran R descriptor request j₀ j₁) :
    wp (do
        Tx.modify (Journal.undo j)
        reconcileTlsCustody custody request secretDir
        Tx.fail e : Tx (Journal ρ) OpError DispatchResult)
      (fun _ j' _ => Ran R descriptor request j₀ j')
      (fun _ j' _ => Ran R descriptor request j₀ j') j₁ n := by
  refine wp_bind (wp_modify (wp_bind (wp_imp (reconcileTlsCustody_ran hR ?_) ?_)))
  · exact h.step rfl hbefore
  · exact fun _ _ _ h' => wp_fail h'

theorem dispatchFound_ran (hR : Keeps R custody descriptor) (faults : SavepointFaults)
    (h : Ran R descriptor request j₀ j) :
    wp (dispatchFound clock host faults custody descriptor request secretDir)
      (fun _ j' _ => Ran R descriptor request j₀ j')
      (fun _ j' _ => Ran R descriptor request j₀ j') j n := by
  refine wp_bind (wp_imp (reconcileTlsCustody_ran hR h) ?_)
  intro _ j₁ n₁ h₁
  refine wp_bind (wp_contents (wp_bind (wp_query h₁ ?_)))
  split_ifs
  · exact wp_fail h₁
  refine wp_bind (wp_attempt (wp_mono (decideAndPerform_ran hR faults h₁) ?_ ?_))
  all_goals
    intro _ j₂ n₂ h₂
    refine wp_bind (wp_attempt (wp_mono (recordAudit_ran hR h₂ _) ?_ ?_))
    · intro _ j₃ n₃ h₃
      refine wp_bind (wp_attempt (wp_query (abandoned_ran hR _ h₁.kept h₃) ?_))
      refine wp_bind (wp_imp (reconcileTlsCustody_ran hR h₃) ?_)
      exact fun _ _ _ h₄ => wp_ofExcept (fun _ _ => h₄) fun _ _ => h₄
    · exact fun _ j₃ n₃ h₃ => abandoned_ran hR _ h₁.kept h₃

end Keeps

structure RanFrom (R : NodeDb ρ → NodeDb ρ → Prop) (catalog : List (OpDescriptor ρ))
    (request : DispatchRequest) (j j' : Journal ρ) : Prop where
  kept : R j.db j'.db
  executions : ∃ new, j'.executions = j.executions ++ new
    ∧ ∀ e ∈ new, R j.db e.db ∧ ∃ descriptor ∈ catalog, descriptor.name = request.op
      ∧ Authorised descriptor request e

theorem dispatchWithSecretDir_ran {R : NodeDb ρ → NodeDb ρ → Prop}
    {custody : Tx (NodeDb ρ) OpError Unit} {catalog : List (OpDescriptor ρ)} (hrefl : ∀ db, R db db)
    (hR : ∀ descriptor ∈ catalog, Keeps R custody descriptor) (faults : SavepointFaults) :
    wp (dispatchWithSecretDir clock host faults custody catalog request secretDir)
      (fun _ j' _ => RanFrom R catalog request j j')
      (fun _ j' _ => RanFrom R catalog request j j') j n := by
  unfold dispatchWithSecretDir
  split
  · exact wp_fail ⟨hrefl _, [], by simp, by simp⟩
  · rename_i descriptor hfound
    have hmem := List.mem_of_find?_eq_some hfound
    have hname : descriptor.name = request.op := by simpa using List.find?_some hfound
    have hfrom : ∀ j', Ran R descriptor request j j' → RanFrom R catalog request j j' := by
      intro j' h
      obtain ⟨new, hnew, hall⟩ := h.executions
      exact ⟨h.kept, new, hnew, fun e he => ⟨(hall e he).2, descriptor, hmem, hname, (hall e he).1⟩⟩
    exact wp_mono (dispatchFound_ran (hR _ hmem) faults (.refl (hR _ hmem) j))
      (fun _ _ _ => hfrom _) fun _ _ _ => hfrom _

def Audited (host : Host) (descriptor : OpDescriptor ρ) (request : DispatchRequest)
    (result : Except OpError DispatchResult) (db db' : NodeDb ρ) : Prop :=
  ∃ draw events, db.ledger.events.insert ⟨host.nowMs draw, "r14_op", none,
      String.ofList ((auditDetail descriptor request result).compact host.showFloat)⟩ = some events
    ∧ db' = withEvents db events

theorem recordAudit_wp (result : Except OpError DispatchResult) :
    wp (recordAudit host descriptor request result)
      (fun _ j' _ => Audited host descriptor request result j.db j'.db)
      (fun e _ _ => e = .storage) j n := by
  unfold recordAudit onWork onNode
  refine wp_on (wp_on (wp_mapError (wp_mono (recordEvent_wp _ _ _) ?_ ?_)))
  · rintro _ db' n' ⟨-, events, hinsert, rfl⟩
    exact ⟨n, events, hinsert, rfl⟩
  · exact fun _ _ _ _ => rfl

structure Preserves (P : NodeDb ρ → Prop) (custody : Tx (NodeDb ρ) OpError Unit)
    (descriptor : OpDescriptor ρ) (context : OpContext) : Prop where
  clock : ∀ {db db'}, ClockAdvanced db db' → P db → P db'
  bumped : ∀ {db}, P db → P (bumped db)
  events : ∀ {db} events, P db → P (withEvents db events)
  custody : ∀ db n, P db → wp custody (fun _ db' _ => P db') (fun _ db' _ => P db') db n
  run : ∀ w n, P w.db → wp (runOperation descriptor context) (fun _ w' _ => P w'.db)
    (fun _ _ _ => True) w n

section Preserves

variable {P : NodeDb ρ → Prop} {custody : Tx (NodeDb ρ) OpError Unit} {faults : SavepointFaults}

end Preserves

/-! ## All or nothing -/

/-- What the decision leaves when the statements of the savepoint succeed. A refusal, an error and a
dry run leave at most a higher floor of trusted time; otherwise the operation was run on contents
that differ from those before only by that floor. -/
def Decided (descriptor : OpDescriptor ρ) (request : DispatchRequest) (secretDir : Option String)
    (db : NodeDb ρ) (result : Except OpError DispatchResult) (db' : NodeDb ρ) : Prop :=
  match result with
  | .error _ => ClockAdvanced db db'
  | .ok value =>
    if request.dryRun then ClockAdvanced db db'
    else ∃ w : Work ρ, ClockAdvanced db w.db
      ∧ Effected descriptor (contextOf request secretDir) w value db'

theorem decideAndPerform_decided :
    wp (decideAndPerform clock {} descriptor request secretDir)
      (fun value j' _ => Decided descriptor request secretDir j.db (.ok value) j'.db)
      (fun e j' _ => Decided descriptor request secretDir j.db (.error e) j'.db) j n := by
  refine wp_bind (wp_mono (onWork_wp authorise_wp) ?_ ?_)
  · rintro _ j₁ n₁ ⟨-, hclock, -⟩
    refine inSavepoint_wp (wp_mono (perform_effected _) ?_ fun _ _ _ _ => hclock)
    intro value j₂ n₂ heffected
    unfold Decided
    dsimp only
    by_cases hdry : request.dryRun = true
    · rw [if_pos hdry, if_pos hdry]
      exact hclock
    · rw [if_neg hdry, if_neg hdry]
      exact ⟨j₁.toWork, hclock, heffected (by simpa using hdry)⟩
  · rintro _ j₁ n₁ ⟨-, hclock⟩
    exact hclock

theorem reconcileTlsCustody_of_ne (custody : Tx (NodeDb ρ) OpError Unit)
    (hop : request.op ≠ ingressTlsRotateOp) :
    reconcileTlsCustody custody request secretDir = pure () := by
  unfold reconcileTlsCustody
  rw [if_neg fun h => hop h.1]

/-- What a call leaves, by what became of its transaction: what was decided with its audit event, or
nothing. -/
theorem dispatchFound_outcome (custody : Tx (NodeDb ρ) OpError Unit) (faults : List Bool)
    (hop : request.op ≠ ingressTlsRotateOp) (htier : descriptor.tier ≠ .readOnly) :
    dispatchFound clock host {} custody descriptor request secretDir ⟨j, faults, n⟩
      = if faults.head? = some true then (.error .storage, ⟨j, faults.tail, n⟩)
        else
          let decision := decideAndPerform clock {} descriptor request secretDir ⟨j, faults.tail, n⟩
          let audit := recordAudit host descriptor request decision.1 decision.2
          match audit.1 with
          | .error e => (.error e, { audit.2 with db := j.undo audit.2.db })
          | .ok () =>
            if audit.2.faults.head? = some true then
              (.error .storage, { audit.2 with db := j.undo audit.2.db, faults := audit.2.faults.tail })
            else (decision.1, { audit.2 with faults := audit.2.faults.tail }) := by
  unfold dispatchFound
  simp only [reconcileTlsCustody_of_ne custody hop, pure_bind, if_neg htier]
  rw [bind_ok (contents_run _)]
  by_cases hbegin : faults.head? = some true
  · rw [if_pos hbegin, bind_error (query_fails hbegin)]
  rw [if_neg hbegin, bind_ok (query_succeeds hbegin), bind_ok (attempt_run _ _),
    bind_ok (attempt_run _ _)]
  dsimp only
  generalize decideAndPerform clock {} descriptor request secretDir ⟨j, faults.tail, n⟩ = decision
  rcases recordAudit host descriptor request decision.1 decision.2
    with ⟨e | _, j', _ | ⟨_ | _, fs⟩, n'⟩ <;> rfl

/-- When the transaction begins, the audit event is written and the commit succeeds, what was decided
is kept together with that one event; otherwise nothing of the call is kept. -/
theorem dispatch_keeps_all_or_nothing (clock : Clock) (host : Host)
    (custody : Tx (NodeDb ρ) OpError Unit) (catalog : List (OpDescriptor ρ))
    (request : DispatchRequest) (secretDir : Option String) (j : Journal ρ) (faults : List Bool)
    (n : ℕ) (descriptor : OpDescriptor ρ)
    (hfound : catalog.find? (fun op => op.name == request.op) = some descriptor)
    (hop : request.op ≠ ingressTlsRotateOp) (htier : descriptor.tier ≠ .readOnly) :
    let out := dispatchWithSecretDir clock host {} custody catalog request secretDir ⟨j, faults, n⟩
    let decision := decideAndPerform clock {} descriptor request secretDir ⟨j, faults.tail, n⟩
    let audit := recordAudit host descriptor request decision.1 decision.2
    Decided descriptor request secretDir j.db decision.1 decision.2.db.db
    ∧ if faults.head? ≠ some true ∧ audit.1.isOk ∧ audit.2.faults.head? ≠ some true then
        out.1 = decision.1
        ∧ Audited host descriptor request decision.1 decision.2.db.db out.2.db.db
      else out.1 = .error .storage ∧ out.2.db.db = j.db := by
  dsimp only
  unfold dispatchWithSecretDir
  rw [hfound]
  dsimp only
  rw [dispatchFound_outcome custody faults hop htier]
  have hdecided : wp (decideAndPerform clock {} descriptor request secretDir) _ _ j n :=
    decideAndPerform_decided
  specialize hdecided faults.tail
  generalize decideAndPerform clock {} descriptor request secretDir ⟨j, faults.tail, n⟩ = decision
    at hdecided
  obtain ⟨result, j', faults', n'⟩ := decision
  refine ⟨by cases result <;> exact hdecided, ?_⟩
  by_cases hbegin : faults.head? = some true
  · simp [hbegin]
  rw [if_neg hbegin]
  dsimp only
  have haudit : wp (recordAudit host descriptor request result) _ _ j' n' := recordAudit_wp result
  specialize haudit faults'
  generalize recordAudit host descriptor request result ⟨j', faults', n'⟩ = audit at haudit ⊢
  obtain ⟨e | _, last⟩ := audit
  · obtain rfl : e = .storage := haudit
    simp [Except.isOk, Except.toBool, Journal.undo]
  · by_cases hcommit : last.faults.head? = some true
    · simp [hcommit, Journal.undo]
    · rw [if_pos ⟨hbegin, rfl, hcommit⟩]
      simp only [hcommit, if_false]
      exact ⟨trivial, haudit⟩

/-! ## A revocation -/

open Confirmation (plainHost)

def stoppedClock : Clock where
  wallTimeMs _ := 0
  monotonicMs _ := 0
  kernelSynchronized _ := true

def freshJournal : Journal Unit where
  db := NodeDb.empty "epoch" ()
  trust := ⟨5000, 60000, .untrusted, none, 0, 0⟩

def revocation (tokenIds : List String) : DispatchRequest where
  op := "operator_token.revoke"
  params := .object [("token_ids", .arr (tokenIds.map .str))]
  dryRun := false
  actor := ⟨"local", .localCli, .construction⟩
  source := none
  stepUpVerified := true
  clockTrust := true

def tokenCatalog : List (OpDescriptor Unit) :=
  [issueDescriptor plainHost stoppedClock, revokeDescriptor plainHost]

/-- A token that does not exist cannot be revoked, and the refusal is the one event on record. -/
theorem refused_revocation_is_audited :
    let out := dispatchWithSecretDir stoppedClock plainHost {} (pure ()) tokenCatalog
      (revocation ["tok_1"]) none ⟨freshJournal, [], 0⟩
    out.1 = .error .notFound ∧ Audited plainHost (revokeDescriptor plainHost)
      (revocation ["tok_1"]) (.error .notFound) freshJournal.db out.2.db.db := by
  have h := dispatch_keeps_all_or_nothing stoppedClock plainHost (pure ()) tokenCatalog
    (revocation ["tok_1"]) none freshJournal [] 0 (revokeDescriptor plainHost) rfl (by decide)
    (by decide)
  exact h.2

/-- When the transaction does not begin, a call is refused without a record. -/
theorem unbegun_call_is_not_audited :
    let out := dispatchWithSecretDir stoppedClock plainHost {} (pure ()) tokenCatalog
      (revocation ["tok_1"]) none ⟨freshJournal, [true], 0⟩
    out.1 = .error .storage ∧ out.2.db.db.ledger.events.rows = [] := by
  exact ⟨rfl, rfl⟩

end Ops

end EdgeNode
