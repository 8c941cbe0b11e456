import EdgeNode.Lib.Machine
import EdgeNode.Ops.Catalog

/-!
# Runs of the clock

Two machines around the same functions. In the first one instance is read and confirmed, and the
record says what each reading reported. In the second any number of instances share a database: each
event is one transaction that makes any calls on one instance, some of them in savepoints, and is
itself kept or dropped; in between a process may start again or the time may be confirmed.
-/

namespace EdgeNode

namespace Ops

variable {ρ : Type}

/-! ## One instance and its confirmations -/

namespace Confirmation

inductive Note where
  | refreshed (fellBack : Bool) (evidence : ClockEvidence)
  | confirmed
  deriving DecidableEq, Repr

inductive Call where
  | refresh
  | trustedNow (kept : Bool)
  | confirm (displayedAtMs : ℤ)
  | restart

structure Event where
  call : Call
  faults : List Bool := []

structure System (ρ : Type) where
  work : Work ρ
  draws : ℕ := 0
  record : List Note := []

variable (host : Host) (clock : Clock)

def System.conn (s : System ρ) (e : Event) : Conn (Work ρ) := ⟨s.work, e.faults, s.draws⟩

/-- The next reading is behind the floor, or has stepped back from the last one. -/
def System.fallsBack (s : System ρ) : Bool :=
  s.work.trust.steppedBack (clock.wallTimeMs s.draws)
    || clock.wallTimeMs s.draws < s.work.db.auth.state.clockFloorMs

def System.reading (s : System ρ) (e : Event) : List Note :=
  match (refresh clock (s.conn e)).1 with
  | .ok evidence => [.refreshed (s.fallsBack clock) evidence]
  | .error _ => []

def System.step (s : System ρ) (e : Event) : System ρ :=
  match e.call with
  | .refresh =>
    let after := (refresh clock (s.conn e)).2
    ⟨after.db, after.draws, s.record ++ s.reading clock e⟩
  | .trustedNow kept =>
    let after := (trustedNowAndAdvance clock (s.conn e)).2
    ⟨if kept then after.db else s.work.undo after.db, after.draws, s.record ++ s.reading clock e⟩
  | .confirm displayedAtMs =>
    match onNode (confirmTimeWithClock host clock displayedAtMs) (s.conn e) with
    | (.ok (), after) => ⟨after.db, after.draws, s.record ++ [.confirmed]⟩
    | (.error _, after) => ⟨after.db, after.draws, s.record⟩
  | .restart =>
    match onNode (load s.work.trust.backwardToleranceMs s.work.trust.checkpointIntervalMs)
        (s.conn e) with
    | (.ok trust, after) => ⟨{ after.db with trust := trust }, after.draws, s.record⟩
    | (.error _, after) => ⟨after.db, after.draws, s.record⟩

end Confirmation

/-! ## Many instances on one database -/

namespace Trusting

inductive TokenOutcome where
  | none
  | expired (tokenId : String)
  | accepted (tokenId : String)
  deriving DecidableEq, Repr

/-- What one call did: the time it trusted, what became of a token, and whether it was kept. -/
structure Observation where
  trustedAt : Option ℤ := Option.none
  token : TokenOutcome := .none
  deriving DecidableEq, Repr

structure Entry extends Observation where
  committed : Bool
  deriving DecidableEq, Repr

inductive Call (ρ : Type) where
  | refresh
  | trustedNow
  | checkpoint
  | authenticate (plaintext : String)
  | checkToken (clockTrust : Bool) (tokenId : String)
  | issue (token : NewOperatorToken) (auditActor : String) (auditSource : Option String)
      (trust : Bool)
  | issueSession (name : String) (ceiling : Tier) (ttlMs : ℤ) (auditActor : String)
      (auditSource : Option String)
  | revoke (tokenId auditActor : String)
  /-- Any change to the database beside the tokens and the floor. -/
  | elsewhere (change : NodeDb ρ → NodeDb ρ)

variable (host : Host) (clock : Clock)

/-- `change`, with the tokens and the floor as they were. -/
def besideClock (change : NodeDb ρ → NodeDb ρ) (db : NodeDb ρ) : NodeDb ρ :=
  { change db with auth := { (change db).auth with
    tokens := db.auth.tokens
    state := { (change db).auth.state with clockFloorMs := db.auth.state.clockFloorMs } } }

def verdictObservation : TokenVerdict → Observation
  | .gone => {}
  | .expired tokenId now => { trustedAt := some now, token := .expired tokenId }
  | .accepted actor now => { trustedAt := now, token := .accepted actor.actorId }

def standingObservation (tokenId : String) : TokenStanding → Observation
  | .gone => {}
  | .expired now => { trustedAt := some now, token := .expired tokenId }
  | .stands now => { trustedAt := now, token := .accepted tokenId }

def Call.observe : Call ρ → Tx (Work ρ) OpsError Observation
  | .refresh => do
    let _ ← Ops.refresh clock
    pure {}
  | .trustedNow => do
    let now ← Ops.trustedNow clock
    pure { trustedAt := some now }
  | .checkpoint => do
    -- The time is the one of the instance after the call, when the checkpoint was due.
    let due ← (checkpointIfDue clock).mapError clockError
    let w ← Tx.contents
    match due, w.trust.state.evidence with
    | true, .trusted _ now => pure { trustedAt := some now }
    | _, _ => pure {}
  | .authenticate plaintext => do
    let verdict ← judgeToken host clock plaintext
    pure (verdictObservation verdict)
  | .checkToken clockTrust tokenId => do
    let standing ← (tokenStanding clock clockTrust tokenId).mapError fun _ => OpsError.forbidden
    pure (standingObservation tokenId standing)
  | .issue token auditActor auditSource trust => do
    let issued ← issueTokenTimed host clock token auditActor auditSource trust
    pure { trustedAt := issued.1 }
  | .issueSession name ceiling ttlMs auditActor auditSource => do
    let issued ← issueSessionTokenTimed host clock name ceiling ttlMs auditActor auditSource
    pure { trustedAt := some issued.1 }
  | .revoke tokenId auditActor => do
    onNode (revokeToken host tokenId auditActor)
    pure {}
  | .elsewhere change => do
    onNode (Tx.modify (besideClock change))
    pure {}

def Call.attempted (call : Call ρ) : Tx (Work ρ) OpsError Observation := do
  match ← Tx.attempt (call.observe host clock) with
  | .ok observation => pure observation
  | .error _ => pure {}

/-- Calls in one savepoint, which is released or rolled back. -/
structure Group (ρ : Type) where
  calls : List (Call ρ)
  kept : Bool

def Group.run (group : Group ρ) : Tx (Work ρ) OpsError (List Entry) := do
  let before ← Tx.contents
  let observations ← Tx.traverse (Call.attempted host clock) group.calls
  if group.kept then pure (observations.map fun o => { o with committed := true })
  else
    Tx.modify before.undo
    pure (observations.map fun o => { o with committed := false })

inductive Event (ρ : Type) where
  | transaction (instance_ : ℕ) (groups : List (Group ρ)) (kept : Bool) (faults : List Bool)
  | confirm (displayedAtMs : ℤ) (faults : List Bool)
  | reset (hasher : PasswordHasher) (phc auditActor : String) (faults : List Bool)
  | restart (instance_ : ℕ) (backwardToleranceMs : ℤ) (checkpointIntervalMs : ℕ)
      (faults : List Bool)

structure System (ρ : Type) where
  db : NodeDb ρ
  trusts : ℕ → ClockTrust
  draws : ℕ := 0
  entries : List Entry := []

def runGroups (groups : List (Group ρ)) : Tx (Work ρ) OpsError (List Entry) := do
  let entries ← Tx.traverse (Group.run host clock) groups
  pure entries.flatten

def System.step (s : System ρ) : Event ρ → System ρ
  | .transaction i groups kept faults =>
    match runGroups host clock groups ⟨⟨s.db, s.trusts i⟩, faults, s.draws⟩ with
    | (.ok entries, after) =>
      { db := if kept then after.db.db else s.db
        trusts := Function.update s.trusts i after.db.trust
        draws := after.draws
        entries := s.entries
          ++ if kept then entries else entries.map fun e => { e with committed := false } }
    | (.error _, after) =>
      { s with trusts := Function.update s.trusts i after.db.trust, draws := after.draws }
  | .confirm displayedAtMs faults =>
    let after := (confirmTimeWithClock host clock displayedAtMs ⟨s.db, faults, s.draws⟩).2
    { s with db := after.db, draws := after.draws }
  | .reset hasher phc auditActor faults =>
    let after := (resetPassphraseWithHash host hasher phc auditActor ⟨s.db, faults, s.draws⟩).2
    { s with db := after.db, draws := after.draws }
  | .restart i backwardToleranceMs checkpointIntervalMs faults =>
    match load backwardToleranceMs checkpointIntervalMs ⟨s.db, faults, s.draws⟩ with
    | (.ok trust, after) => { s with trusts := Function.update s.trusts i trust
                                     draws := after.draws }
    | (.error _, after) => { s with draws := after.draws }

end Trusting

end Ops

end EdgeNode
