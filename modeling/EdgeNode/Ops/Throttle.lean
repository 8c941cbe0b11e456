import EdgeNode.Ingest.Admission
import EdgeNode.Lib.SlidingWindow

/-!
# Throttling of logins

Each login is checked before its secret is: all sources together may try ten times a second, and a
source that has failed has to wait, twice as long after each failure and up to a minute. A success
forgets the failures of its source. Times are in nanoseconds.
-/

namespace EdgeNode

namespace Api

open Ingest (IpAddr satU64)

structure RetryAfter where
  duration : ℕ
  deriving DecidableEq, Repr

structure SourceState where
  failures : ℕ
  blockedUntil : ℕ
  deriving DecidableEq, Repr

structure ThrottleState where
  sources : AList fun _ : IpAddr => SourceState
  global : List ℕ

def nanosPerSecond : ℕ := 1000000000

def passesPerSecond : ℕ := 10

def maxBackoffSecs : ℕ := 60

namespace ThrottleState

def empty : ThrottleState where
  sources := ∅
  global := []

/-- The wait of a blocked source is what is left of it; the wait of the others is a second. -/
def checkAndRecordSource (now : ℕ) (ip : IpAddr) (state : ThrottleState) :
    Except RetryAfter Unit × ThrottleState :=
  match (state.sources.lookup ip).filter fun source => now < source.blockedUntil with
  | some source => (.error ⟨source.blockedUntil - now⟩, state)
  | none =>
    let global := SlidingWindow.trim nanosPerSecond now state.global
    if passesPerSecond ≤ global.length then
      (.error ⟨nanosPerSecond⟩, { state with global := global })
    else (.ok (), { state with global := global ++ [now] })

def backoffSecs (failures : ℕ) : ℕ := min (satU64 (2 ^ failures)) maxBackoffSecs

/-- The count stops at the largest value of 32 bits. -/
def recordFailure (now : ℕ) (ip : IpAddr) (state : ThrottleState) : ThrottleState :=
  let source := (state.sources.lookup ip).getD ⟨0, now⟩
  let failures := min (source.failures + 1) (2 ^ 32 - 1)
  { state with
    sources := state.sources.insert ip
      ⟨failures, now + backoffSecs failures * nanosPerSecond⟩ }

def recordSuccess (ip : IpAddr) (state : ThrottleState) : ThrottleState :=
  { state with sources := state.sources.erase ip }

end ThrottleState

/-! ## Runs -/

inductive ThrottleCall where
  | check (ip : IpAddr)
  | failure (ip : IpAddr)
  | success (ip : IpAddr)
  deriving DecidableEq, Repr

structure ThrottleRun where
  state : ThrottleState
  passes : List (ℕ × IpAddr)

namespace ThrottleRun

def empty : ThrottleRun where
  state := .empty
  passes := []

def serve (s : ThrottleRun) : ℕ × ThrottleCall → ThrottleRun
  | (now, .check ip) =>
    match s.state.checkAndRecordSource now ip with
    | (.ok (), state) => ⟨state, s.passes ++ [(now, ip)]⟩
    | (.error _, state) => { s with state := state }
  | (now, .failure ip) => { s with state := s.state.recordFailure now ip }
  | (_, .success ip) => { s with state := s.state.recordSuccess ip }

def after (calls : List (ℕ × ThrottleCall)) : ThrottleRun := calls.foldl serve empty

end ThrottleRun

end Api

end EdgeNode
