import EdgeNode.Collector.Envelope
import EdgeNode.Lib.Keyed

/-!
# Sightings in the long run

Submissions note the hardware that nobody has approved yet; retention forgets it after a month
without contact, or when there are too many sightings. What is still staged is kept whatever its age.
-/

namespace EdgeNode

namespace Ledger

def sightingsTtlMs : ℤ := 30 * 24 * 60 * 60 * 1000

def sightingsCap : ℕ := 10000

def isStaged (db : StagingDb) (hardwareId : String) : Bool :=
  db.staged.rows.any fun r => r.2.hardwareId == hardwareId

/-- `ORDER BY last_seen DESC, hardware_id ASC`. -/
def seenBefore (a b : Sigma fun _ : String => SightingRow) : Bool :=
  decide (b.2.lastSeen < a.2.lastSeen) || (a.2.lastSeen == b.2.lastSeen && decide (a.1 ≤ b.1))

def beyondCap (db : StagingDb) : List String :=
  ((db.sightings.entries.mergeSort seenBefore).drop sightingsCap).map fun e => e.1

/-- Deletes the sightings that satisfy `p` and are not staged; the result is their number. -/
def deleteUnstaged (p : StagingDb → String → SightingRow → Bool) : Tx StagingDb LedgerError ℕ :=
  Tx.stmt .sqlite fun db =>
    let doomed := fun id s => p db id s && !isStaged db id
    .ok (Keyed.countWhere doomed db.sightings,
      { db with sightings := Keyed.retain (fun id s => !doomed id s) db.sightings })

/-- The first statement asks whether the table of staged rows exists, which it does here. -/
def purgeSightings (nowMs : ℤ) : Tx StagingDb LedgerError ℕ := do
  let cutoff := I64.saturatingSub nowMs sightingsTtlMs
  Tx.query .sqlite fun _ => ()
  let byTtl ← deleteUnstaged fun _ _ s => decide (s.lastSeen < cutoff)
  let byCap ← deleteUnstaged fun db id _ => (beyondCap db).contains id
  pure (byTtl + byCap)

def retainSightings (nowMs : ℤ) : Tx StagingDb LedgerError ℕ :=
  Tx.transaction .sqlite (fun before _ => before) do
    let n ← purgeSightings nowMs
    pure (.commit, n)

end Ledger

namespace Collector

variable {ρ : Type}

inductive SightingEvent where
  | submit (o : Circumstances) (request : IngestRequest)
  | validate (o : Circumstances) (request : IngestRequest)
  | retain (nowMs : ℤ) (faults : List Bool)

/-- A failed pass is only noted in the log. -/
def serveSighting (c : Components ρ) (s : State ρ) : SightingEvent → State ρ
  | .submit o request => (submit c s o request).2
  | .validate o request => (validate c s o request).2
  | .retain nowMs faults =>
    { s with
      db := { s.db with
        staging := (Ledger.retainSightings nowMs
          { db := s.db.staging, faults := faults, draws := s.draws }).2.db } }

end Collector

end EdgeNode
