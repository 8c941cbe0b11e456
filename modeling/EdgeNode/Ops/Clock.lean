import EdgeNode.Collector.Database

/-!
# Trusted time

The wall clock is only believed with evidence: the kernel says that it is synchronized, or a local
administrator has confirmed it. The evidence lives in memory; what persists is the floor, the latest
time that was ever trusted, and the number of confirmations. A reading below the floor, or one that
has stepped back, is not trusted.

A `ClockTrust` is handed to the computations beside the database: a rollback takes back what was
written, not what the instance remembers.
-/

namespace EdgeNode

inductive OpsError where
  | sqlite
  /-- A trigger has refused the statement. -/
  | raised (message : String)
  | ledger (e : LedgerError)
  | notFound
  | conflict
  | forbidden
  | validation (message : String)
  | credentialHash
  | random
  | clockUntrusted
  deriving DecidableEq, Repr

/-- What a clock answers when it is read; the readings are numbered by the draws of the node. -/
structure Clock where
  wallTimeMs : ℕ → ℤ
  monotonicMs : ℕ → ℕ
  kernelSynchronized : ℕ → Bool

inductive ClockEvidence where
  | untrusted
  | trusted (source : TrustSource) (observedAtMs : ℤ)
  deriving DecidableEq, Repr

inductive ClockTrustError where
  | untrusted
  | ops (e : OpsError)
  deriving DecidableEq, Repr

structure RuntimeState where
  evidence : ClockEvidence
  lastWallMs : Option ℤ
  consumedManualSeq : ℤ
  lastCheckpointMonotonicMs : ℕ
  deriving DecidableEq, Repr

structure ClockTrust where
  backwardToleranceMs : ℤ
  checkpointIntervalMs : ℕ
  state : RuntimeState
  deriving DecidableEq, Repr

namespace ClockTrust

/-- The reading has stepped back from the last one by more than the tolerance. -/
def steppedBack (trust : ClockTrust) (now : ℤ) : Bool :=
  trust.state.lastWallMs.any fun last =>
    now < I64.saturatingSub last trust.backwardToleranceMs

/-- What the instance believes after a reading. A confirmation is used once; trust by the kernel
ends with its synchronization, trust by a confirmation goes on. -/
def refreshed (trust : ClockTrust) (now : ℤ) (synchronized : Bool) (floor manualSeq : ℤ) :
    ClockTrust :=
  let state :=
    if trust.steppedBack now || now < floor then { trust.state with evidence := .untrusted }
    else if synchronized then { trust.state with evidence := .trusted .kernelSync now }
    else if trust.state.consumedManualSeq < manualSeq then
      { trust.state with
        consumedManualSeq := manualSeq, evidence := .trusted .manualLocalRoot now }
    else
      match trust.state.evidence with
      | .trusted .kernelSync _ => { trust.state with evidence := .untrusted }
      | .trusted source _ => { trust.state with evidence := .trusted source now }
      | .untrusted => trust.state
  { trust with state := { state with lastWallMs := some now } }

end ClockTrust

namespace Ops

variable {ρ α ε : Type}

/-- What the control plane works on: the database and the clock it was handed. -/
structure Work (ρ : Type) where
  db : NodeDb ρ
  trust : ClockTrust

/-- A transaction that is undone leaves what the clock remembers. -/
def Work.undo (before after : Work ρ) : Work ρ := { after with db := before.db }

def onNode (m : Tx (NodeDb ρ) ε α) : Tx (Work ρ) ε α :=
  m.on Work.db fun w db => { w with db := db }

def onLedger (m : Tx LedgerDb LedgerError α) : Tx (NodeDb ρ) OpsError α :=
  (m.mapError .ledger).on NodeDb.ledger fun db ledger => { db with ledger := ledger }

def setAuthState (f : AuthState → AuthState) (db : NodeDb ρ) : NodeDb ρ :=
  { db with auth := { db.auth with state := f db.auth.state } }

def recordEvent (host : Host) (kind : String) (systemId : Option SystemId) (detail : Json) :
    Tx (NodeDb ρ) OpsError Unit :=
  onLedger (Ledger.recordEvent host kind systemId (String.ofList (detail.compact host.showFloat)))

/-! ## One instance -/

def persistedFloor : Tx (NodeDb ρ) OpsError ℤ :=
  Tx.query .sqlite fun db => db.auth.state.clockFloorMs

def manualEvidenceSeq : Tx (NodeDb ρ) OpsError ℤ :=
  Tx.query .sqlite fun db => db.auth.state.manualEvidenceSeq

/-- An instance as a process makes it when it starts. -/
def load (backwardToleranceMs : ℤ) (checkpointIntervalMs : ℕ) :
    Tx (NodeDb ρ) OpsError ClockTrust := do
  let manualSeq ← manualEvidenceSeq
  pure ⟨backwardToleranceMs, checkpointIntervalMs, ⟨.untrusted, none, manualSeq, 0⟩⟩

section

variable (clock : Clock)

def refresh : Tx (Work ρ) OpsError ClockEvidence := do
  let draw ← Tx.draw
  let floor ← onNode persistedFloor
  let manualSeq ← onNode manualEvidenceSeq
  Tx.modify fun w => { w with
    trust := w.trust.refreshed (clock.wallTimeMs draw) (clock.kernelSynchronized draw) floor
      manualSeq }
  let w ← Tx.contents
  pure w.trust.state.evidence

/-- The time, when it can be trusted. The floor rises to it in the transaction of the caller. -/
def trustedNowAndAdvance : Tx (Work ρ) ClockTrustError ℤ := do
  match ← (refresh clock).mapError .ops with
  | .untrusted => Tx.fail .untrusted
  | .trusted source observedAtMs =>
    onNode <| Tx.exec (.ops .sqlite) <| setAuthState fun s => { s with
      clockFloorMs := max s.clockFloorMs observedAtMs
      clockEvidenceSource := some source
      clockEvidenceAtMs := some observedAtMs }
    pure observedAtMs

def checkpointIfDue : Tx (Work ρ) ClockTrustError Bool := do
  let draw ← Tx.draw
  let w ← Tx.contents
  if clock.monotonicMs draw - w.trust.state.lastCheckpointMonotonicMs
      < w.trust.checkpointIntervalMs then pure false
  else
    let _ ← trustedNowAndAdvance clock
    Tx.modify fun w => { w with trust := { w.trust with state := { w.trust.state with
      lastCheckpointMonotonicMs := clock.monotonicMs draw } } }
    pure true

end

/-- How far the clock may move between showing the time to the administrator and confirming it. -/
def maxManualConfirmationDriftMs : ℤ := 30000

/-- The body of `confirm_time_with_clock`, which commits when it succeeds. The floor stays where it
is until the time is used. -/
def confirmTimeBody (host : Host) (clock : Clock) (displayedAtMs : ℤ) :
    Tx (NodeDb ρ) OpsError (Tx.Ending × Unit) := do
  let floor ← persistedFloor
  let draw ← Tx.draw
  let confirmedAtMs := clock.wallTimeMs draw
  let withinDrift := (I64.checkedSub confirmedAtMs displayedAtMs).any fun drift =>
    0 ≤ drift && drift ≤ maxManualConfirmationDriftMs
  if displayedAtMs < floor || confirmedAtMs < floor || !withinDrift then Tx.fail .clockUntrusted
  else
    Tx.exec .sqlite <| setAuthState fun s => { s with
      manualEvidenceSeq := s.manualEvidenceSeq + 1
      clockEvidenceSource := some .manualLocalRoot
      clockEvidenceAtMs := some confirmedAtMs }
    recordEvent host "clock_trust_confirmed" none <| .object [("actor", .str "local_cli"),
      ("source", .str "manual_local_root"), ("displayed_at_ms", .int displayedAtMs),
      ("confirmed_at_ms", .int confirmedAtMs), ("floor_ms", .int floor)]
    pure (.commit, ())

def confirmTimeWithClock (host : Host) (clock : Clock) (displayedAtMs : ℤ) :
    Tx (NodeDb ρ) OpsError Unit :=
  Tx.transaction .sqlite (fun before _ => before) (confirmTimeBody host clock displayedAtMs)

end Ops

end EdgeNode
