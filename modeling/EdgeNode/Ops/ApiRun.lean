import EdgeNode.Lib.Machine
import EdgeNode.Ops.TokenOps

/-!
# Requests to the API

A request makes up to three calls on the database: the authentication layer turns its token into an
actor, the passphrase it may carry is held against the stored hash, and the operation is dispatched.
Anything can be committed between two of them: other requests, the local tools, a reset of the
passphrase.
-/

namespace EdgeNode

namespace Ops

namespace Api

variable {ρ : Type}

structure OpDispatchBody where
  name : String
  params : List (String × Json)
  dryRun : Bool
  stepUpPassphrase : Option String
  source : Option String

structure Inflight where
  actor : Actor
  body : OpDispatchBody
  stepUpVerified : Bool := false

structure Node (ρ : Type) where
  host : Host
  clock : Clock
  hasher : PasswordHasher
  custody : Tx (NodeDb ρ) OpError Unit
  catalog : List (OpDescriptor ρ)
  secretDir : Option String

structure Entry (ρ : Type) where
  body : Option OpDispatchBody
  execution : Execution ρ

inductive Call (ρ : Type) where
  | authenticate (slot : ℕ) (plaintext : String) (body : OpDispatchBody)
  | verifyStepUpPassphrase (slot : ℕ)
  | dispatch (slot : ℕ) (savepoint : SavepointFaults)
  /-- A dispatch by the local tools, or by the node itself. -/
  | localDispatch (system : Bool) (actorId : String) (tierCeiling : Tier)
      (request : Actor → DispatchRequest) (savepoint : SavepointFaults)
  | issueToken (token : NewOperatorToken) (auditActor : String) (auditSource : Option String)
      (trust : Bool)
  | issueSession (name : String) (ceiling : Tier) (ttlMs : ℤ) (auditActor : String)
      (auditSource : Option String)
  | revokeToken (tokenId auditActor : String)
  | resetPassphrase (phc auditActor : String)
  | elsewhere (change : Work ρ → Work ρ)

structure Event (ρ : Type) where
  call : Call ρ
  faults : List Bool := []

structure System (ρ : Type) where
  work : Work ρ
  draws : ℕ := 0
  inflight : ℕ → Option Inflight := fun _ => none
  log : List (Entry ρ) := []

def reservedOpParamKeys : List String := ["step_up_passphrase"]

def rejectsReservedOpParams (params : List (String × Json)) : Bool :=
  reservedOpParamKeys.any fun key => params.any fun p => p.1 == key

/-- Any other change of the node: it leaves the passphrase, its generation and the tokens, and it
does not lower the floor of trusted time. -/
def besideAuthority (change : Work ρ → Work ρ) (w : Work ρ) : Work ρ :=
  { change w with db := { (change w).db with auth := { (change w).db.auth with
    adminCredential := w.db.auth.adminCredential
    tokens := w.db.auth.tokens
    state := { (change w).db.auth.state with
      authGeneration := w.db.auth.state.authGeneration
      clockFloorMs := max w.db.auth.state.clockFloorMs
        (change w).db.auth.state.clockFloorMs } } } }

variable (node : Node ρ)

def verifyStepUp (passphrase : String) : Tx (NodeDb ρ) OpsError Bool := do
  let phc ← loadPassphraseHash
  pure (phc.any fun phc => verifyPassphrase node.hasher phc passphrase)

def Inflight.request (r : Inflight) : DispatchRequest where
  op := r.body.name
  params := .obj r.body.params
  dryRun := r.body.dryRun
  actor := r.actor
  source := r.body.source
  stepUpVerified := r.stepUpVerified
  clockTrust := true

/-- A request that carries a passphrase is dispatched only when it was verified. -/
def Inflight.ready (r : Inflight) : Bool :=
  r.stepUpVerified || r.body.stepUpPassphrase.isNone

namespace System

variable (s : System ρ)

/-- The transaction of a caller of the functions that open none. -/
def committed {α : Type} (m : Tx (Work ρ) OpsError α) (faults : List Bool) : System ρ :=
  let after := (Tx.transaction .sqlite Work.undo (do
    let a ← m
    pure (.commit, a)) ⟨s.work, faults, s.draws⟩).2
  { s with work := after.db, draws := after.draws }

def dispatched (body : Option OpDispatchBody) (request : DispatchRequest)
    (savepoint : SavepointFaults) (faults : List Bool) : System ρ :=
  let after := (dispatchWithSecretDir node.clock node.host savepoint node.custody node.catalog
    request node.secretDir ⟨{ toWork := s.work }, faults, s.draws⟩).2
  { s with
    work := after.db.toWork
    draws := after.draws
    log := s.log ++ after.db.executions.map (⟨body, ·⟩) }

def closed (slot : ℕ) : System ρ := { s with inflight := Function.update s.inflight slot none }

def step (e : Event ρ) : System ρ :=
  match e.call with
  | .authenticate slot plaintext body =>
    match authLayer node.host node.clock plaintext ⟨s.work, e.faults, s.draws⟩ with
    | (.ok (some actor), after) =>
      { s with
        work := after.db
        draws := after.draws
        inflight := Function.update s.inflight slot
          (if rejectsReservedOpParams body.params then none else some { actor, body }) }
    | (_, after) => { (s.closed slot) with work := after.db, draws := after.draws }
  | .verifyStepUpPassphrase slot =>
    match s.inflight slot with
    | none => s
    | some r =>
      match r.body.stepUpPassphrase with
      | none => s
      | some passphrase =>
        match onNode (verifyStepUp node passphrase) ⟨s.work, e.faults, s.draws⟩ with
        | (.ok true, after) =>
          { s with
            work := after.db
            draws := after.draws
            inflight := Function.update s.inflight slot (some { r with stepUpVerified := true }) }
        | (_, after) => { (s.closed slot) with work := after.db, draws := after.draws }
  | .dispatch slot savepoint =>
    match s.inflight slot with
    | none => s
    | some r =>
      if r.ready then (s.dispatched node (some r.body) r.request savepoint e.faults).closed slot
      else s
  | .localDispatch system actorId tierCeiling request savepoint =>
    let actor : Actor := ⟨actorId, if system then .system else .localCli, tierCeiling⟩
    s.dispatched node none { request actor with actor := actor } savepoint e.faults
  | .issueToken token auditActor auditSource trust =>
    s.committed (issueToken node.host node.clock token auditActor auditSource trust) e.faults
  | .issueSession name ceiling ttlMs auditActor auditSource =>
    s.committed (issueSessionToken node.host node.clock name ceiling ttlMs auditActor auditSource)
      e.faults
  | .revokeToken tokenId auditActor =>
    s.committed (onNode (revokeToken node.host tokenId auditActor)) e.faults
  | .resetPassphrase phc auditActor =>
    let after := (onNode (resetPassphraseWithHash node.host node.hasher phc auditActor)
      ⟨s.work, e.faults, s.draws⟩).2
    { s with work := after.db, draws := after.draws }
  | .elsewhere change => { s with work := besideAuthority change s.work }

end System

end Api

end Ops

end EdgeNode
