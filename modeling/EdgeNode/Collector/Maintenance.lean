import EdgeNode.Collector.Dedup
import EdgeNode.Ledger.Store
import EdgeNode.Lib.Machine

/-!
# Maintenance of the table of claims

After each request the collector may purge the table of claims. Whether the purge worked is kept in a
row of its own, and a change of it is an event, written in one transaction with it. A transaction
that fails is tried again before anything newer is recorded.
-/

namespace EdgeNode

structure DedupMaintenanceHealth where
  degraded : Bool := false
  episodeStartedAt : Option ℤ := none
  lastFailureAt : Option ℤ := none
  lastSuccessAt : Option ℤ := none
  deriving DecidableEq, Repr

structure MaintenanceDb where
  dedup : DedupTable
  maintenance : DedupMaintenanceHealth
  ledger : LedgerDb

namespace Maintenance

def dedupTtlMs : ℤ := 72 * 60 * 60 * 1000

/-- `true` when the row was not degraded before. -/
def markDedupPurgeFailed (nowMs : ℤ) : Tx MaintenanceDb TimeseriesError Bool := do
  let wasDegraded ← Tx.query .sqlite fun db => db.maintenance.degraded
  Tx.exec .sqlite fun db => { db with
    maintenance := { db.maintenance with
      degraded := true
      episodeStartedAt := if db.maintenance.degraded then db.maintenance.episodeStartedAt else some nowMs
      lastFailureAt := some nowMs } }
  pure (!wasDegraded)

/-- `true` when the row was degraded before. -/
def markDedupPurgeRecovered (nowMs : ℤ) : Tx MaintenanceDb TimeseriesError Bool := do
  let wasDegraded ← Tx.query .sqlite fun db => db.maintenance.degraded
  Tx.exec .sqlite fun db => { db with
    maintenance := { db.maintenance with
      degraded := false
      episodeStartedAt := none
      lastSuccessAt := some nowMs } }
  pure wasDegraded

def markDedupPurge (nowMs : ℤ) (failed : Bool) : Tx MaintenanceDb TimeseriesError Bool :=
  if failed then markDedupPurgeFailed nowMs else markDedupPurgeRecovered nowMs

def transitionKind (failed : Bool) : String :=
  if failed then "dedup_window_degraded" else "dedup_window_recovered"

def transitionDetail (failed : Bool) : String :=
  if failed then
    "\x7b\"state\":\"degraded\",\"operator_action\":\"Check database storage and run retention "
      ++ "maintenance; duplicate suppression is reduced until recovery.\"\x7d"
  else
    "\x7b\"state\":\"recovered\",\"summary\":\"configured duplicate-suppression maintenance "
      ++ "resumed\"\x7d"

variable (host : Host)

def recordEvent (failed : Bool) : Tx MaintenanceDb TimeseriesError Unit :=
  (Tx.on MaintenanceDb.ledger (fun db ledger => { db with ledger := ledger })
    (Ledger.recordEvent host (transitionKind failed) none (transitionDetail failed))).mapError
      fun _ => .sqlite

def transition (nowMs : ℤ) (failed : Bool) : Tx MaintenanceDb TimeseriesError (Tx.Ending × Unit) := do
  let transitioned ← markDedupPurge nowMs failed
  if transitioned then
    recordEvent host failed
    pure (.commit, ())
  else pure (.commit, ())

def recordTransition (nowMs : ℤ) (failed : Bool) : Tx MaintenanceDb TimeseriesError Unit :=
  Tx.transaction .sqlite (fun before _ => before) (transition host nowMs failed)

end Maintenance

structure PendingDedupMaintenanceTransition where
  atMs : ℤ
  failed : Bool
  deriving DecidableEq, Repr

/-- The collector's part in it. `lastFailed` is a history variable: whether the last purge of this
process failed. -/
structure DedupMaintainer where
  db : MaintenanceDb
  draws : ℕ
  lastPurgeMs : ℤ
  pending : Option PendingDedupMaintenanceTransition := none
  lastFailed : Option Bool := none

/-- A call after a request: its clock reading, and the statements that fail in the purge, in the
repeated transaction and in the new one. -/
structure MaintenanceCall where
  nowMs : ℤ
  purgeFaults : List Bool := []
  retryFaults : List Bool := []
  recordFaults : List Bool := []

namespace DedupMaintainer

variable (host : Host) (purgeIntervalMs : ℤ)

/-- Runs a transaction of maintenance; the answer is whether it was committed. -/
def recordDedupMaintenanceTransition (nowMs : ℤ) (failed : Bool) (faults : List Bool)
    (m : DedupMaintainer) : Bool × DedupMaintainer :=
  match Maintenance.recordTransition host nowMs failed ⟨m.db, faults, m.draws⟩ with
  | (r, c) => (r.isOk, { m with db := c.db, draws := c.draws })

def retry (faults : List Bool) (m : DedupMaintainer) : Bool × DedupMaintainer :=
  match m.pending with
  | none => (true, m)
  | some pending =>
    match m.recordDedupMaintenanceTransition host pending.atMs pending.failed faults with
    | (true, m) => (true, { m with pending := none })
    | (false, m) => (false, m)

def record (nowMs : ℤ) (failed : Bool) (faults : List Bool) (m : DedupMaintainer) : DedupMaintainer :=
  match m.recordDedupMaintenanceTransition host nowMs failed faults with
  | (true, m) => m
  | (false, m) => { m with pending := some ⟨nowMs, failed⟩ }

def isDue (nowMs : ℤ) (m : DedupMaintainer) : Bool :=
  !decide (I64.saturatingSub nowMs m.lastPurgeMs < purgeIntervalMs)

def purge (nowMs : ℤ) (faults : List Bool) (m : DedupMaintainer) : Bool × DedupMaintainer :=
  match Dedup.purgeDedupBefore (nowMs - Maintenance.dedupTtlMs) ⟨m.db.dedup, faults, m.draws⟩ with
  | (r, c) =>
    (!r.isOk, { m with
      db := { m.db with dedup := c.db }
      lastPurgeMs := nowMs
      lastFailed := some (!r.isOk) })

def maybePurgeDedup (call : MaintenanceCall) (m : DedupMaintainer) : DedupMaintainer :=
  if !m.isDue purgeIntervalMs call.nowMs then (m.retry host call.retryFaults).2
  else
    match m.purge call.nowMs call.purgeFaults with
    | (purgeFailed, m) =>
      if (m.pending.any fun pending => !pending.failed) && purgeFailed then
        -- A recovery that was never committed says nothing about a newer failure.
        { m with pending := none }.record host call.nowMs purgeFailed call.recordFaults
      else
        match m.retry host call.retryFaults with
        | (false, m) => m
        | (true, m) => m.record host call.nowMs purgeFailed call.recordFaults

def step (m : DedupMaintainer) (call : MaintenanceCall) : Option DedupMaintainer :=
  some (m.maybePurgeDedup host purgeIntervalMs call)

end DedupMaintainer

end EdgeNode
