import EdgeNode.Ops.ApiRun
import EdgeNode.Proofs.Dispatch
import EdgeNode.Proofs.TrustedTime

/-!
# Requests to the API, over whole runs

A reset starts a new generation, and the dispatch accepts a token of the generation in force only. So
when an operation is run, no reset lies between the authentication of its request and the run, and
the hash the passphrase was verified against is the hash of the transaction.
-/

namespace EdgeNode

open Tx

namespace Ops

namespace Api

variable {ρ : Type} {node : Node ρ} {db db' : NodeDb ρ} {s : System ρ} {n : ℕ}
  {r : Inflight} {body : OpDispatchBody}

/-! ## What the calls leave -/

structure LeavesAuthority (descriptor : OpDescriptor ρ) : Prop where
  dryRun : ∀ context w n, wp (descriptor.dryRun context) (fun _ w' _ => AuthorityKept w.db w'.db)
    (fun _ w' _ => AuthorityKept w.db w'.db) w n
  run : ∀ context w n, wp (runOperation descriptor context)
    (fun _ w' _ => AuthorityKept w.db w'.db) (fun _ w' _ => AuthorityKept w.db w'.db) w n

theorem ClockAdvanced.authorityKept (h : ClockAdvanced db db') : AuthorityKept db db' := by
  rcases h with rfl | ⟨source, now, -, rfl⟩
  · exact .refl _
  · exact .of_tokens (le_max_left _ _) rfl rfl rfl

theorem LeavesAuthority.keeps {descriptor : OpDescriptor ρ} {custody : Tx (NodeDb ρ) OpError Unit}
    (h : LeavesAuthority descriptor)
    (hcustody : ∀ db n, wp custody (fun _ db' _ => AuthorityKept db db')
      (fun _ db' _ => AuthorityKept db db') db n) :
    Keeps AuthorityKept custody descriptor where
  refl := .refl
  trans := .trans
  clock := ClockAdvanced.authorityKept
  bumped _ := .of_auth rfl
  events _ _ := .of_auth rfl
  custody := hcustody
  dryRun := h.dryRun
  run := h.run

theorem issueDescriptor_leavesAuthority (host : Host) (clock : Clock) :
    LeavesAuthority (issueDescriptor host clock : OpDescriptor ρ) where
  dryRun _ _ _ := wp_ofExcept (fun _ _ => .refl _) fun _ _ => .refl _
  run context w n := by
    refine wp_bind (wp_bind (wp_ofExcept (fun token _ => ?_) fun _ _ => .refl _))
    refine wp_bind (wp_mapError (wp_imp (issueToken_kept _ _ _ _) ?_))
    exact fun _ _ _ h => wp_pure (wp_pure h)

theorem revokeDescriptor_leavesAuthority (host : Host) :
    LeavesAuthority (revokeDescriptor host : OpDescriptor ρ) where
  dryRun _ _ _ := wp_ofExcept (fun _ _ => .refl _) fun _ _ => .refl _
  run context w n := by
    refine wp_bind (wp_bind (wp_ofExcept (fun tokenIds _ => ?_) fun _ _ => .refl _))
    refine wp_bind (wp_imp (wp_forEach (I := fun _ (w' : Work ρ) _ => AuthorityKept w.db w'.db)
      (fun tokenId _ w' n' hw => ?_) (.refl w.db)) ?_)
    · exact wp_on (wp_mapError (wp_mono (revokeToken_kept tokenId _)
        (fun _ _ _ h => hw.trans h) fun _ _ _ h => hw.trans h))
    · exact fun _ _ _ h => wp_pure (wp_pure h)

theorem authLayer_wp (host : Host) (clock : Clock) (plaintext : String) (w : Work ρ) :
    wp (authLayer host clock plaintext)
      (fun found w' _ => AuthorityKept w.db w'.db ∧ ∀ actor, found = some actor →
        ∃ row, w'.db.auth.tokens.lookup actor.actorId = some row
          ∧ actor = row.actor actor.actorId)
      (fun _ w' _ => AuthorityKept w.db w'.db) w n := by
  have hrefl := AuthorityKept.refl w.db
  refine wp_transaction hrefl (wp_bind (wp_bind (wp_mono
    (Trusting.judgeToken_observes plaintext) ?_ fun _ _ _ _ => hrefl)))
  rintro verdict w' n' ⟨hkept, -, hactor⟩
  refine wp_pure (wp_pure ⟨⟨hkept, fun actor hfound => ?_⟩, hrefl⟩)
  obtain ⟨tokenId, row, hrow, rfl⟩ := hactor actor hfound
  obtain ⟨row', hrow', hsame⟩ := hkept.tokens tokenId row hrow
  exact ⟨row', hrow', hsame.actor.symm⟩

variable (node) in
theorem verifyStepUp_wp (passphrase : String) (w : Work ρ) :
    wp (onNode (verifyStepUp node passphrase))
      (fun ok w' _ => w' = w ∧ (ok = true → (w.db.auth.adminCredential.any fun c =>
        verifyPassphrase node.hasher c.passphraseHash passphrase) = true))
      (fun _ w' _ => w' = w) w n := by
  refine wp_on (wp_bind (wp_query rfl (wp_pure ⟨rfl, fun h => ?_⟩)))
  rwa [Option.any_map] at h

theorem System.committed_kept {α : Type} {m : Tx (Work ρ) OpsError α} (faults : List Bool)
    (h : wp m (fun _ w' _ => AuthorityKept s.work.db w'.db)
      (fun _ w' _ => AuthorityKept s.work.db w'.db) s.work s.draws) :
    AuthorityKept s.work.db (s.committed m faults).work.db := by
  have hrefl := AuthorityKept.refl s.work.db
  refine wp.after (P := fun w' : Work ρ => AuthorityKept s.work.db w'.db) ?_ faults
  refine wp_transaction hrefl (wp_bind (wp_mono h ?_ fun _ _ _ _ => hrefl))
  exact fun _ _ _ hkept => wp_pure ⟨hkept, hrefl⟩

theorem besideAuthority_kept (change : Work ρ → Work ρ) (w : Work ρ) :
    AuthorityKept w.db (besideAuthority change w).db :=
  .of_tokens (le_max_left _ _) rfl rfl rfl

/-! ## Invariants -/

structure Invariant (ρ : Type) where
  contents : NodeDb ρ → Prop
  request : NodeDb ρ → Inflight → Prop
  entry : Entry ρ → Prop

structure Invariant.Holds (I : Invariant ρ) (s : System ρ) : Prop where
  contents : I.contents s.work.db
  request : ∀ slot r, s.inflight slot = some r → I.request s.work.db r
  entry : ∀ e ∈ s.log, I.entry e

structure Preserves (node : Node ρ) (R : NodeDb ρ → NodeDb ρ → Prop) (I : Invariant ρ) : Prop where
  dispatch : ∀ descriptor ∈ node.catalog, Keeps R node.custody descriptor
  kept : ∀ {db db'}, AuthorityKept db db' → R db db'
  contents : ∀ {db db'}, R db db' → I.contents db → I.contents db'
  request : ∀ {db db' r}, R db db' → I.request db r → I.request db' r
  accepted : ∀ {db actor row body}, db.auth.tokens.lookup actor.actorId = some row →
    actor = row.actor actor.actorId → I.request db { actor, body }
  verified : ∀ {db r passphrase}, I.request db r → r.body.stepUpPassphrase = some passphrase →
    (db.auth.adminCredential.any fun c =>
      verifyPassphrase node.hasher c.passphraseHash passphrase) = true →
    I.request db { r with stepUpVerified := true }
  reset : ∀ {db db'}, TermsKept db db' →
    db'.auth.state.authGeneration = db.auth.state.authGeneration + 1 →
    (∀ tokenId, (db'.auth.tokens.lookup tokenId).isSome = (db.auth.tokens.lookup tokenId).isSome) →
    I.contents db → I.contents db' ∧ ∀ r, I.request db r → I.request db' r
  api : ∀ {db r e}, I.request db r → R db e.db → ∀ descriptor : OpDescriptor ρ,
    Authorised descriptor r.request e → I.entry ⟨some r.body, e⟩
  own : ∀ {request : DispatchRequest} {e}, request.actor.actorKind = .localCli
      ∨ request.actor.actorKind = .system → ∀ descriptor : OpDescriptor ρ,
    Authorised descriptor request e → I.entry ⟨none, e⟩

section Step

variable {R : NodeDb ρ → NodeDb ρ → Prop} {I : Invariant ρ}

theorem Invariant.Holds.later (hI : Preserves node R I) (h : I.Holds s) {s' : System ρ}
    (hkept : R s.work.db s'.work.db) (hinflight : s'.inflight = s.inflight)
    (hlog : s'.log = s.log) : I.Holds s' where
  contents := hI.contents hkept h.contents
  request slot r hr := hI.request hkept (h.request slot r (by rwa [hinflight] at hr))
  entry e he := h.entry e (by rwa [hlog] at he)

theorem Invariant.Holds.update (h : I.Holds s) (slot : ℕ) {found : Option Inflight}
    (hfound : ∀ r, found = some r → I.request s.work.db r) :
    I.Holds { s with inflight := Function.update s.inflight slot found } where
  contents := h.contents
  request slot' r hr := by
    by_cases hslot : slot' = slot
    · exact hfound r (by simpa [hslot] using hr)
    · exact h.request slot' r (by simpa [hslot] using hr)
  entry := h.entry

theorem Invariant.Holds.closed (h : I.Holds s) (slot : ℕ) : I.Holds (s.closed slot) :=
  h.update slot (by simp)

theorem Invariant.Holds.dispatched (hI : Preserves node R I) (h : I.Holds s)
    (body : Option OpDispatchBody) (request : DispatchRequest) (savepoint : SavepointFaults)
    (faults : List Bool)
    (hentry : ∀ (descriptor : OpDescriptor ρ) (e : Execution ρ), R s.work.db e.db →
      Authorised descriptor request e → I.entry ⟨body, e⟩) :
    I.Holds (s.dispatched node body request savepoint faults) := by
  have hran : RanFrom R node.catalog request { toWork := s.work }
      (dispatchWithSecretDir node.clock node.host savepoint node.custody node.catalog request
        node.secretDir ⟨{ toWork := s.work }, faults, s.draws⟩).2.db :=
    wp.after (dispatchWithSecretDir_ran (fun db => hI.kept (.refl db)) hI.dispatch savepoint) faults
  obtain ⟨new, hnew, hall⟩ := hran.executions
  refine ⟨hI.contents hran.kept h.contents,
    fun slot r hr => hI.request hran.kept (h.request slot r hr), fun entry he => ?_⟩
  rcases List.mem_append.1 he with he | he
  · exact h.entry entry he
  · obtain ⟨e, hrun, rfl⟩ := List.mem_map.1 he
    rw [hnew, List.nil_append] at hrun
    obtain ⟨hkept, descriptor, -, -, hauthorised⟩ := hall e hrun
    exact hentry descriptor e hkept hauthorised

theorem Invariant.Holds.step (hI : Preserves node R I) (h : I.Holds s) (e : Event ρ) :
    I.Holds (s.step node e) := by
  obtain ⟨call, faults⟩ := e
  unfold System.step
  cases call with
  | authenticate slot plaintext body =>
    have hspec := authLayer_wp node.host node.clock plaintext s.work (n := s.draws) faults
    dsimp only
    rcases hr : authLayer node.host node.clock plaintext ⟨s.work, faults, s.draws⟩ with
      ⟨err | _ | actor, after⟩ <;> rw [hr] at hspec
    · exact (h.closed slot).later hI (hI.kept hspec) rfl rfl
    · exact (h.closed slot).later hI (hI.kept hspec.1) rfl rfl
    · obtain ⟨row, hrow, hactor⟩ := hspec.2 actor rfl
      have hlater : I.Holds { s with work := after.db, draws := after.draws } :=
        h.later hI (hI.kept hspec.1) rfl rfl
      refine hlater.update slot fun r hr => ?_
      split_ifs at hr
      cases hr
      exact hI.accepted hrow hactor
  | verifyStepUpPassphrase slot =>
    dsimp only
    cases hslot : s.inflight slot with
    | none => exact h
    | some r =>
      cases hpassphrase : r.body.stepUpPassphrase with
      | none => simpa only [hpassphrase] using h
      | some passphrase =>
        simp only [hpassphrase]
        have hspec := verifyStepUp_wp node passphrase s.work (n := s.draws) faults
        rcases hr : onNode (verifyStepUp node passphrase) ⟨s.work, faults, s.draws⟩ with
          ⟨err | _ | _, after⟩ <;> rw [hr] at hspec
        · exact (h.closed slot).later hI (hI.kept (.of_auth (congrArg (·.db.auth) hspec))) rfl rfl
        · exact (h.closed slot).later hI (hI.kept (.of_auth (congrArg (·.db.auth) hspec.1))) rfl rfl
        · obtain ⟨hsame, hverifies⟩ := hspec
          have hlater : I.Holds { s with work := after.db, draws := after.draws } :=
            h.later hI (hI.kept (.of_auth (by rw [hsame]))) rfl rfl
          refine hlater.update slot ?_
          rintro _ ⟨⟩
          dsimp only
          rw [hsame]
          exact hI.verified (h.request slot r hslot) hpassphrase (hverifies rfl)
  | dispatch slot savepoint =>
    dsimp only
    cases hslot : s.inflight slot with
    | none => exact h
    | some r =>
      dsimp only
      split_ifs
      · refine (h.dispatched hI _ _ savepoint faults fun descriptor e hkept ha => ?_).closed slot
        exact hI.api (h.request slot r hslot) hkept descriptor ha
      · exact h
  | localDispatch system actorId tierCeiling request savepoint =>
    refine h.dispatched hI _ _ savepoint faults fun descriptor e _ ha => hI.own ?_ descriptor ha
    cases system <;> simp
  | issueToken token auditActor auditSource trust =>
    exact h.later hI (hI.kept (System.committed_kept faults (issueToken_kept _ _ _ _))) rfl rfl
  | issueSession name ceiling ttlMs auditActor auditSource =>
    exact h.later hI (hI.kept (System.committed_kept faults (issueSessionToken_kept _ _ _ _ _)))
      rfl rfl
  | revokeToken tokenId auditActor =>
    refine h.later hI (hI.kept (System.committed_kept faults ?_)) rfl rfl
    exact wp_on (revokeToken_kept tokenId auditActor)
  | resetPassphrase phc auditActor =>
    have hspec := onNode_wp (w := s.work)
      (resetPassphraseWithHash_wp node.host s.work.db node.hasher phc auditActor (n := s.draws))
      faults
    dsimp only
    rcases hr : onNode (resetPassphraseWithHash node.host node.hasher phc auditActor)
      ⟨s.work, faults, s.draws⟩ with ⟨err | _, after⟩ <;> rw [hr] at hspec
    · exact h.later hI (hI.kept (.of_auth (by rw [hspec.2]))) rfl rfl
    · obtain ⟨-, hterms, hgeneration, hsome⟩ := hspec
      obtain ⟨hcontents, hrequests⟩ := hI.reset hterms hgeneration hsome h.contents
      exact ⟨hcontents, fun slot r hr => hrequests r (h.request slot r hr), h.entry⟩
  | elsewhere change => exact h.later hI (hI.kept (besideAuthority_kept change s.work)) rfl rfl

theorem Invariant.Holds.run (hI : Preserves node R I) (h : I.Holds s) (events : List (Event ρ)) :
    I.Holds (events.foldl (System.step node) s) := by
  induction events generalizing s with
  | nil => exact h
  | cons e events ih => exact ih (h.step hI e)

end Step

theorem actor_ai {row : TokenRow} {tokenId : String}
    (h : (row.actor tokenId).actorKind = .ai) : (row.actor tokenId).tierCeiling ≤ .routine := by
  refine row.aiCeiling ?_
  cases hkind : row.kind with
  | human => simp [TokenRow.actor, hkind, TokenKind.actorKind] at h
  | ai => rfl

/-- No actor that is an AI has a ceiling above the routine tier, and none has run anything above
it. -/
def aiBound : Invariant ρ where
  contents _ := True
  request _ r := r.actor.actorKind = .ai → r.actor.tierCeiling ≤ .routine
  entry e := e.execution.actor.actorKind = .ai → e.execution.effectiveTier ≤ .routine

theorem aiBound_preserved (node : Node ρ) : Preserves node (fun _ _ => True) aiBound where
  dispatch _ _ := ⟨fun _ => trivial, fun _ _ => trivial, fun _ => trivial, fun _ => trivial,
    fun _ _ => trivial, fun _ _ => wp_trivial _, fun _ _ _ => wp_trivial _,
    fun _ _ _ => wp_trivial _⟩
  kept _ := trivial
  contents _ _ := trivial
  request _ h := h
  accepted _ hactor := by
    intro hai
    dsimp only at hai ⊢
    rw [hactor] at hai ⊢
    exact actor_ai hai
  verified h _ _ := h
  reset _ _ _ _ := ⟨trivial, fun _ h => h⟩
  api h _ descriptor ha hai := by
    rw [ha.noted] at hai ⊢
    exact Tier.le_trans ha.permitted.tier (h hai)
  own hkind descriptor ha hai := by
    rw [ha.noted] at hai
    rcases hkind with h | h <;> exact absurd (h.symm.trans hai) (by decide)

/-! ## The token and the passphrase in the transaction -/

def CurrentPassphrase (node : Node ρ) (db : NodeDb ρ) (body : OpDispatchBody) : Prop :=
  ∃ passphrase credential, body.stepUpPassphrase = some passphrase
    ∧ db.auth.adminCredential = some credential
    ∧ verifyPassphrase node.hasher credential.passphraseHash passphrase = true

def OnRecord (db : NodeDb ρ) (actor : Actor) (row : TokenRow) : Prop :=
  db.auth.tokens.lookup actor.actorId = some row ∧ actor = row.actor actor.actorId

/-- While the token of a request is of the generation in force, so is the passphrase it was verified
with. -/
def backed (node : Node ρ) : Invariant ρ where
  contents db := ∀ tokenId row, db.auth.tokens.lookup tokenId = some row →
    row.authGeneration ≤ db.auth.state.authGeneration
  request db r := ∃ row, OnRecord db r.actor row
    ∧ (row.authGeneration = db.auth.state.authGeneration → r.stepUpVerified = true →
      CurrentPassphrase node db r.body)
  entry e := ∀ body, e.body = some body →
    (∃ row, OnRecord e.execution.db e.execution.actor row
      ∧ e.execution.effectiveTier ≤ row.tierCeiling)
    ∧ (e.execution.effectiveTier = .construction → CurrentPassphrase node e.execution.db body)

theorem OnRecord.later {actor : Actor} {row : TokenRow} (h : OnRecord db actor row)
    (hkept : TermsKept db db') : ∃ row', OnRecord db' actor row' ∧ SameTerms row row' := by
  obtain ⟨row', hrow', hsame⟩ := hkept.tokens _ row h.1
  exact ⟨row', ⟨hrow', h.2.trans hsame.actor.symm⟩, hsame⟩

theorem OnRecord.isToken {actor : Actor} {row : TokenRow} (h : OnRecord db actor row) :
    actor.actorKind = .human ∨ actor.actorKind = .ai := by
  rw [h.2]
  cases hkind : row.kind <;> simp [TokenRow.actor, hkind, TokenKind.actorKind]

theorem backed_request_later (hkept : AuthorityKept db db') (h : (backed node).request db r) :
    (backed node).request db' r := by
  obtain ⟨row, hrow, hcurrent⟩ := h
  obtain ⟨row', hrow', hsame⟩ := hrow.later hkept.toTermsKept
  refine ⟨row', hrow', fun hgeneration hverified => ?_⟩
  obtain ⟨passphrase, credential, hsupplied, hstored, hverifies⟩ :=
    hcurrent (by rw [← hsame.generation, hgeneration, hkept.generation]) hverified
  exact ⟨passphrase, credential, hsupplied, hkept.credential.trans hstored, hverifies⟩

theorem backed_preserved (node : Node ρ)
    (hcustody : ∀ db n, wp node.custody (fun _ db' _ => AuthorityKept db db')
      (fun _ db' _ => AuthorityKept db db') db n)
    (hcatalog : ∀ descriptor ∈ node.catalog, LeavesAuthority descriptor) :
    Preserves node AuthorityKept (backed node) where
  dispatch descriptor hmem := (hcatalog descriptor hmem).keeps hcustody
  kept := id
  contents hkept h tokenId row' hrow' := by
    cases hrow : (_ : NodeDb ρ).auth.tokens.lookup tokenId with
    | none => rw [hkept.issued tokenId row' hrow' hrow, hkept.generation]
    | some row =>
      obtain ⟨row₁, hrow₁, hsame⟩ := hkept.tokens tokenId row hrow
      obtain rfl : row₁ = row' := Option.some.inj (hrow₁.symm.trans hrow')
      rw [hsame.generation, hkept.generation]
      exact h tokenId row hrow
  request := backed_request_later
  accepted hrow hactor := ⟨_, ⟨hrow, hactor⟩, fun _ h => by cases h⟩
  verified h hsupplied hverifies := by
    obtain ⟨row, hrow, -⟩ := h
    refine ⟨row, hrow, fun _ _ => ?_⟩
    obtain ⟨credential, hstored, hverifies⟩ := (Option.any_eq_true _ _).1 hverifies
    exact ⟨_, credential, hsupplied, hstored, hverifies⟩
  reset hterms hgeneration hsome h := by
    refine ⟨fun tokenId row' hrow' => ?_, fun r hr => ?_⟩
    · obtain ⟨row, hrow⟩ := Option.isSome_iff_exists.1
        ((hsome tokenId).symm.trans (by rw [hrow']; rfl))
      obtain ⟨row₁, hrow₁, hsame⟩ := hterms.tokens tokenId row hrow
      obtain rfl : row₁ = row' := Option.some.inj (hrow₁.symm.trans hrow')
      have hle := h tokenId row hrow
      rw [hsame.generation]
      omega
    · -- No token is of the new generation yet.
      obtain ⟨row, hrow, -⟩ := hr
      obtain ⟨row', hrow', hsame⟩ := hrow.later hterms
      have hle := h _ row hrow.1
      refine ⟨row', hrow', fun hnow => ?_⟩
      rw [hsame.generation, hgeneration] at hnow
      omega
  api {_ r e} h hkept descriptor ha := by
    rintro _ ⟨⟩
    obtain ⟨row, hrow, hcurrent⟩ := backed_request_later hkept h
    have hactor : e.actor = r.actor := by rw [ha.noted]; rfl
    have htier : e.effectiveTier = descriptor.effectiveTier r.request.params := by rw [ha.noted]; rfl
    have hceiling : r.actor.tierCeiling = row.tierCeiling := by rw [hrow.2]; rfl
    refine ⟨⟨row, hactor ▸ hrow, ?_⟩, fun htop => ?_⟩
    · rw [htier, ← hceiling]
      exact ha.permitted.tier
    · obtain ⟨row', hrow', -, hgeneration, -⟩ := ha.permitted.token hrow.isToken
      obtain rfl : row' = row := Option.some.inj (hrow'.symm.trans hrow.1)
      exact hcurrent hgeneration (ha.permitted.stepUp (htier.symm.trans htop))
  own _ _ _ := by rintro _ ⟨⟩

def NoFutureToken (db : NodeDb ρ) : Prop :=
  ∀ tokenId row, db.auth.tokens.lookup tokenId = some row →
    row.authGeneration ≤ db.auth.state.authGeneration

/-- A dispatch runs only what the checks allow in the contents it runs on. Over every run, no actor
that is an AI runs anything above the routine tier; and when the operations leave the tokens on their
terms, the ceiling an actor of the API is held to is that of its token. -/
theorem operations_run_only_authorised (node : Node ρ) :
    (∀ (savepoint : SavepointFaults) (request : DispatchRequest) (j : Journal ρ)
        (faults : List Bool) (n : ℕ),
      ∃ new, (dispatchWithSecretDir node.clock node.host savepoint node.custody node.catalog request
          node.secretDir ⟨j, faults, n⟩).2.db.executions = j.executions ++ new
        ∧ ∀ e ∈ new, ∃ descriptor ∈ node.catalog, descriptor.name = request.op
          ∧ Authorised descriptor request e)
    ∧ (∀ (work : Work ρ) (draws : ℕ) (events : List (Event ρ)),
      ∀ entry ∈ (events.foldl (System.step node) { work, draws }).log,
        entry.execution.actor.actorKind = .ai → entry.execution.effectiveTier ≤ .routine)
    ∧ ((∀ db n, wp node.custody (fun _ db' _ => AuthorityKept db db')
          (fun _ db' _ => AuthorityKept db db') db n) →
      (∀ descriptor ∈ node.catalog, LeavesAuthority descriptor) →
      ∀ (work : Work ρ) (draws : ℕ) (events : List (Event ρ)), NoFutureToken work.db →
        ∀ entry ∈ (events.foldl (System.step node) { work, draws }).log, entry.body.isSome →
          ∃ row, OnRecord entry.execution.db entry.execution.actor row
            ∧ entry.execution.effectiveTier ≤ row.tierCeiling) := by
  refine ⟨?_, ?_, ?_⟩
  · intro savepoint request j faults n
    have hran : RanFrom (fun _ _ => True) node.catalog request j
        (dispatchWithSecretDir node.clock node.host savepoint node.custody node.catalog request
          node.secretDir ⟨j, faults, n⟩).2.db :=
      wp.after (dispatchWithSecretDir_ran (fun _ => trivial) (aiBound_preserved node).dispatch
        savepoint) faults
    obtain ⟨new, hnew, hall⟩ := hran.executions
    exact ⟨new, hnew, fun e he => (hall e he).2⟩
  · intro work draws events
    have hfirst : aiBound.Holds { work, draws : System ρ } := ⟨trivial, by simp, by simp⟩
    exact (hfirst.run (aiBound_preserved node) events).entry
  · intro hcustody hcatalog work draws events hfuture entry hentry hbody
    have hfirst : (backed node).Holds { work, draws : System ρ } := ⟨hfuture, by simp, by simp⟩
    obtain ⟨body, hbody⟩ := Option.isSome_iff_exists.1 hbody
    exact ((hfirst.run (backed_preserved node hcustody hcatalog) events).entry entry hentry body
      hbody).1

/-- Whatever is committed between the calls of a request: an operation of the construction tier is run
for it only if its passphrase verifies against the hash in the transaction that runs it. -/
theorem step_up_is_current (node : Node ρ)
    (hcustody : ∀ db n, wp node.custody (fun _ db' _ => AuthorityKept db db')
      (fun _ db' _ => AuthorityKept db db') db n)
    (hcatalog : ∀ descriptor ∈ node.catalog, LeavesAuthority descriptor) (work : Work ρ) (draws : ℕ)
    (hfuture : NoFutureToken work.db) (events : List (Event ρ)) :
    ∀ entry ∈ (events.foldl (System.step node) { work, draws }).log, ∀ body,
      entry.body = some body → entry.execution.effectiveTier = .construction →
        CurrentPassphrase node entry.execution.db body := by
  have hfirst : (backed node).Holds { work, draws : System ρ } := ⟨hfuture, by simp, by simp⟩
  intro entry hentry body hbody
  exact ((hfirst.run (backed_preserved node hcustody hcatalog) events).entry entry hentry body
    hbody).2

/-! ## A request with a passphrase -/

def plainHasher : PasswordHasher where
  isHash _ := true
  verifies phc plaintext := phc == plaintext

def tokenNode : Node Unit where
  host := Confirmation.plainHost
  clock := stoppedClock
  hasher := plainHasher
  custody := pure ()
  catalog := tokenCatalog
  secretDir := none

def issueBody : OpDispatchBody where
  name := "operator_token.issue"
  params := [("kind", .str "ai"), ("name", .str "reader"), ("tier_ceiling", .str "routine")]
  dryRun := false
  stepUpPassphrase := some "open"
  source := none

def issueEvents : List (Event Unit) :=
  [⟨.resetPassphrase "open" "local_cli", []⟩,
    ⟨.issueToken ⟨"admin", .human, .construction, false, none⟩ "local_cli" none false, []⟩,
    ⟨.authenticate 0 "iko_4" issueBody, []⟩, ⟨.verifyStepUpPassphrase 0, []⟩, ⟨.dispatch 0 {}, []⟩]

/-- The token is issued, and the passphrase was the one in force. -/
theorem issue_by_step_up :
    ∃ entry body,
      (issueEvents.foldl (System.step tokenNode) { work := freshJournal.toWork }).log = [entry]
      ∧ entry.body = some body ∧ entry.execution.effectiveTier = .construction
      ∧ CurrentPassphrase tokenNode entry.execution.db body := by
  have hlog : ((issueEvents.foldl (System.step tokenNode) { work := freshJournal.toWork }).log.map
      fun e => (e.body.isSome, e.execution.effectiveTier)) = [(true, .construction)] := by
    decide +kernel
  obtain ⟨entry, hentry, hshape⟩ := List.map_eq_singleton_iff.1 hlog
  obtain ⟨hsome, htier⟩ := Prod.ext_iff.1 hshape
  obtain ⟨body, hbody⟩ := Option.isSome_iff_exists.1 hsome
  refine ⟨entry, body, hentry, hbody, htier, ?_⟩
  refine step_up_is_current tokenNode (fun db n => wp_pure (.refl db)) ?_ freshJournal.toWork 0 ?_
    issueEvents entry (by rw [hentry]; exact List.mem_singleton_self entry) body hbody htier
  · intro descriptor hmem
    rcases List.mem_pair.1 hmem with rfl | rfl
    · exact issueDescriptor_leavesAuthority _ _
    · exact revokeDescriptor_leavesAuthority _
  · rintro tokenId row ⟨⟩

end Api

end Ops

end EdgeNode
