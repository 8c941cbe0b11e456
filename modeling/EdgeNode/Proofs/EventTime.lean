import EdgeNode.Proofs.Envelope
import EdgeNode.Proofs.ExactlyOnce

/-!
# How far an event time can lie from the reception

An item takes one of four ways through the functions that read its time fields. A device time of a
device's clock was compared with the trusted time, an age with the limit; a device time without a
clock behind it is not adopted, and neither is what lies too far ahead.
-/

namespace EdgeNode

open Tx

/-! ## One item -/

def FreshnessSnapshot.earliestMs (clock : FreshnessSnapshot) : ℤ :=
  clock.trustedWallTimeMs.elim clock.receivedAtMs (min clock.receivedAtMs)

theorem earliestMs_le (clock : FreshnessSnapshot) : clock.earliestMs ≤ clock.receivedAtMs := by
  unfold FreshnessSnapshot.earliestMs
  cases clock.trustedWallTimeMs with
  | none => exact le_rfl
  | some now => exact min_le_left _ _

structure TimeBounded (limits : FreshnessLimits) (clock : FreshnessSnapshot) (eventTime : ℤ) :
    Prop where
  lower : clock.earliestMs - limits.maxAgeMs ≤ eventTime
  upper : eventTime ≤ clock.receivedAtMs + 300000

theorem TimeBounded.receivedAt (limits : FreshnessLimits) (clock : FreshnessSnapshot) :
    TimeBounded limits clock clock.receivedAtMs where
  lower := by
    have := earliestMs_le clock
    have := limits.valid.1.1
    omega
  upper := by omega

def freshnessPanics (item : ReadingItem) (clock : FreshnessSnapshot) (limits : FreshnessLimits) :
    Bool :=
  !(item.deviceTimeMs.isNone && item.ageMs.any fun age => limits.maxAgeMs < age)
    && requiresAbsoluteTime item
    && (clock.trustedWallTimeMs.isNone || item.deviceTimeMs.isNone)

variable {item : ReadingItem} {itemIndex : ℕ} {clock : FreshnessSnapshot} {limits : FreshnessLimits}

/-! ## The envelope -/

namespace Collector

variable {ρ : Type} {c : Components ρ} {context : ItemContext} {w : Work ρ} {n : ℕ}

/-- An envelope that needs absolute time without a trusted clock is refused before its first item. -/
def preflightPassed (clock : FreshnessSnapshot) (items : List ReadingItem) : Bool :=
  !(clock.trustedWallTimeMs.isNone && items.any requiresAbsoluteTime)

def ReadingsFresh (c : Components ρ) (clock : FreshnessSnapshot) (items : List ReadingItem)
    (statuses : List ItemStatus) : Prop :=
  ∀ i ∈ itemsWhere ItemStatus.isReading items statuses,
    ∃ itemIndex, freshnessRejection i.1 itemIndex clock c.freshnessLimits = none

def AcceptedFresh (c : Components ρ) (clock : Except String FreshnessSnapshot)
    (request : IngestRequest) (status : AckStatus) : Prop :=
  ∀ statuses, status = .accepted statuses → ∃ snapshot, clock = .ok snapshot
    ∧ preflightPassed snapshot request.envelope.items = true
    ∧ ReadingsFresh c snapshot request.envelope.items statuses

def laggingRequest : IngestRequest :=
  { Ingest.benchRequest with envelope.items :=
      [{ Ingest.benchReading with deviceTimeMs := some 1000, timeSource := .deviceRtc }] }

end Collector

end EdgeNode
