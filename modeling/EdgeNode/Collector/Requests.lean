import EdgeNode.Collector.Envelope
import EdgeNode.Registry.Policy

/-!
# Requests between mutations

The collector serves one request after the other. In between, others write the database: a mutation
of the ledger bumps its generation in its own transaction, what leaves the ledger alone need not.
-/

namespace EdgeNode

namespace Collector

variable {ρ : Type}

/-- The collector of a node decides by the node's own registry. -/
def Components.withRegistry (c : Components RegistryDb) : Components RegistryDb :=
  { c with policy := sqliteRegistry c.host }

/-- A mutation that committed: any change of the tables, with `bumpGeneration` at its end. -/
def mutated (change : NodeDb ρ → NodeDb ρ) (db : NodeDb ρ) : NodeDb ρ :=
  { change db with
    ledger := { (change db).ledger with
      generation := some (db.ledger.generation.elim 1 (· + 1)) } }

inductive Event (ρ : Type) where
  | submit (o : Circumstances) (request : IngestRequest)
  | validate (o : Circumstances) (request : IngestRequest)
  | mutate (change : NodeDb ρ → NodeDb ρ)
  | elsewhere (change : NodeDb ρ → NodeDb ρ)

inductive Answer where
  | ack (result : Except SubmitError EnvelopeAck)
  | report (result : Except SubmitError ValidationReport)
  | none

def serve (c : Components ρ) (s : State ρ) : Event ρ → Answer × State ρ
  | .submit o request => (.ack (submit c s o request).1, (submit c s o request).2)
  | .validate o request => (.report (validate c s o request).1, (validate c s o request).2)
  | .mutate change => (.none, { s with db := mutated change s.db })
  | .elsewhere change => (.none, { s with db := { change s.db with ledger := s.db.ledger } })

def serveUncached (c : Components ρ) (s : State ρ) (e : Event ρ) : Answer × State ρ :=
  serve c { s with cache := {} } e

def trace (serve : State ρ → Event ρ → Answer × State ρ) (s : State ρ) :
    List (Event ρ) → List (Answer × NodeDb ρ)
  | [] => []
  | e :: events => ((serve s e).1, (serve s e).2.db) :: trace serve (serve s e).2 events

end Collector

end EdgeNode
