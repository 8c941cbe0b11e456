import EdgeNode.Lib.Keyed
import EdgeNode.Lib.Machine
import EdgeNode.Lib.TokenBucket

/-!
# Admission

Authentication takes a token of a bucket for everyone, or of one kept for peers validated before; a
request then reserves its greatest cost from the boundary's bucket and its principal's, and gives
back what it has not used. Whatever is refused counts towards an episode of throttling.

Every caller reads the clock before it takes the lock, so that the calls take place in another order
than their readings.
-/

namespace EdgeNode

namespace Ingest

inductive IpAddr where
  | v4 (bits : BitVec 32)
  | v6 (bits : BitVec 128)
  deriving DecidableEq, Repr

/-- Arithmetic that stops at the largest value of 64 bits. -/
def satU64 (n : ℕ) : ℕ := min n (2 ^ 64 - 1)

structure FlowClassLimit where
  ratePerSecond : ℕ
  burst : ℕ
  deriving DecidableEq, Repr

def FlowClassLimit.valid (flow : FlowClassLimit) : Bool := 0 < flow.ratePerSecond && 0 < flow.burst

structure AdmissionConfig where
  authWorkers : ℕ := 2
  reservedAuthWorkers : ℕ := 1
  authRatePerSecond : ℕ := 16
  authBurst : ℕ := 32
  initialAuthTokens : ℕ := 1
  reservedAuthRatePerSecond : ℕ := 8
  reservedAuthBurst : ℕ := 8
  initialReservedAuthTokens : ℕ := 1
  preAuthSourceCapacity : ℕ := 1024
  preAuthSourceTtlMs : ℕ := 60000
  preAuthFailuresPerWindow : ℕ := 8
  principalStateCapacity : ℕ := 64
  lowFlow : FlowClassLimit := ⟨1000000, 1000000⟩
  defaultFlow : FlowClassLimit := ⟨1000000, 1000000⟩
  highFlow : FlowClassLimit := ⟨1000000, 1000000⟩
  globalRatePerSecond : ℕ := 4000000
  globalBurst : ℕ := 4000000
  throttleCooldownMs : ℕ := 5000
  deriving DecidableEq, Repr

def AdmissionConfig.validate (c : AdmissionConfig) : Bool :=
  !(c.authWorkers == 0 || c.reservedAuthWorkers == 0 || c.authRatePerSecond == 0
    || c.authBurst == 0 || c.initialAuthTokens > c.authBurst || c.reservedAuthRatePerSecond == 0
    || c.reservedAuthBurst == 0 || c.initialReservedAuthTokens > c.reservedAuthBurst
    || c.preAuthSourceCapacity == 0 || c.preAuthSourceTtlMs == 0
    || c.preAuthFailuresPerWindow == 0 || c.principalStateCapacity == 0 || !c.lowFlow.valid
    || !c.defaultFlow.valid || !c.highFlow.valid || c.globalRatePerSecond == 0
    || c.globalBurst == 0 || c.throttleCooldownMs == 0)

structure SourceState where
  failures : ℕ
  expiresAtMs : ℕ
  deriving DecidableEq, Repr

inductive ThrottleEpisodeEvent where
  | started (episodeId : ℕ)
  | recovered (episodeId drops : ℕ)
  deriving DecidableEq, Repr

structure AdmissionState where
  auth : TokenBucket
  reservedAuth : TokenBucket
  sources : AList fun _ : IpAddr => SourceState := ∅
  globalFlow : TokenBucket
  principals : AList fun _ : String => TokenBucket := ∅
  throttledDropCount : ℕ := 0
  queueHighWater : ℕ := 0
  throttleActive : Bool := false
  currentEpisodeId : ℕ := 0
  nextEpisodeId : ℕ := 1
  episodeDrops : ℕ := 0
  lastDropMs : ℕ
  episodeEvents : List ThrottleEpisodeEvent := []
  queueCurrent : ℕ := 0
  queueCapacity : ℕ := 1
  requestCurrent : ℕ := 0
  requestCapacity : ℕ := 1
  connectionCurrent : ℕ := 0
  connectionCapacity : ℕ := 1

structure AdmissionHealthSnapshot where
  throttledDropCount : ℕ
  queueHighWater : ℕ
  throttleActive : Bool
  queueCurrent : ℕ
  queuePressurePercent : ℕ
  requestPressurePercent : ℕ
  connectionPressurePercent : ℕ
  authPressurePercent : ℕ
  globalFlowPressurePercent : ℕ
  principalPressurePercent : ℕ
  sourceStateCount : ℕ
  principalStateCount : ℕ
  deriving DecidableEq, Repr

inductive AdmissionDenied where
  | throttled
  | busy
  deriving DecidableEq, Repr

structure PrincipalReservation where
  principalId : String
  reservedMilli : ℕ
  consumedMilli : ℕ
  globalCapacityMilli : ℕ
  principalCapacityMilli : ℕ
  reservedAtMs : ℕ
  deriving DecidableEq, Repr

def bucketPressurePercent (b : TokenBucket) : ℕ :=
  if b.capacityMilli = 0 then 100
  else min ((b.capacityMilli - b.tokensMilli) * 100 / b.capacityMilli) 100

def capacityPressurePercent (current capacity : ℕ) : ℕ :=
  if capacity = 0 then 100 else min (current * 100 / capacity) 100

namespace AdmissionState

variable (config : AdmissionConfig)

def new (nowMs : ℕ) : AdmissionState where
  auth := .make config.initialAuthTokens config.authRatePerSecond config.authBurst nowMs
  reservedAuth := .make config.initialReservedAuthTokens config.reservedAuthRatePerSecond
    config.reservedAuthBurst nowMs
  globalFlow := .make config.globalBurst config.globalRatePerSecond config.globalBurst nowMs
  lastDropMs := nowMs

def noteDrop (nowMs : ℕ) (s : AdmissionState) : AdmissionState :=
  let s := { s with
    throttledDropCount := satU64 (s.throttledDropCount + 1)
    episodeDrops := satU64 (s.episodeDrops + 1)
    lastDropMs := nowMs }
  if s.throttleActive then s
  else { s with
    throttleActive := true
    currentEpisodeId := s.nextEpisodeId
    nextEpisodeId := satU64 (s.nextEpisodeId + 1)
    episodeDrops := 1
    episodeEvents := s.episodeEvents ++ [.started s.nextEpisodeId] }

def isOtherRecovery (episodeId : ℕ) : ThrottleEpisodeEvent → Bool
  | .recovered id _ => id != episodeId
  | .started _ => false

def maybeRecover (nowMs : ℕ) (s : AdmissionState) : AdmissionState :=
  if !s.throttleActive || nowMs - s.lastDropMs < config.throttleCooldownMs
      || s.auth.tokensMilli < config.authBurst * 500
      || s.globalFlow.tokensMilli < config.globalBurst * 500
      || (s.principals.entries.any fun e => 50 ≤ bucketPressurePercent e.2)
      || 50 ≤ capacityPressurePercent s.queueCurrent s.queueCapacity
      || 50 ≤ capacityPressurePercent s.requestCurrent s.requestCapacity
      || 50 ≤ capacityPressurePercent s.connectionCurrent s.connectionCapacity
      || s.episodeEvents.any (isOtherRecovery s.currentEpisodeId) then s
  else { s with
    throttleActive := false
    episodeDrops := 0
    episodeEvents := s.episodeEvents ++ [.recovered s.currentEpisodeId s.episodeDrops] }

/-- Removes events that were passed on, if they are the first ones. -/
def acknowledgeEpisodeEvents (events : List ThrottleEpisodeEvent) (s : AdmissionState) :
    Bool × AdmissionState :=
  if events.isPrefixOf s.episodeEvents then
    (true, { s with episodeEvents := s.episodeEvents.drop events.length })
  else (false, s)

/-! ## Pressure -/

def noteQueueDepth (depth : ℕ) (s : AdmissionState) : AdmissionState :=
  { s with queueHighWater := max s.queueHighWater depth }

def noteCurrentCapacityPressure (queueCurrent queueCapacity requestCurrent requestCapacity
    connectionCurrent connectionCapacity : ℕ) (s : AdmissionState) : AdmissionState :=
  { s with
    queueCurrent := min queueCurrent queueCapacity
    queueCapacity := max queueCapacity 1
    requestCurrent := min requestCurrent requestCapacity
    requestCapacity := max requestCapacity 1
    connectionCurrent := min connectionCurrent connectionCapacity
    connectionCapacity := max connectionCapacity 1
    queueHighWater := max s.queueHighWater (min queueCurrent queueCapacity) }

def refillAuth (nowMs : ℕ) (s : AdmissionState) : AdmissionState :=
  { s with auth := s.auth.refillRate config.authRatePerSecond config.authBurst nowMs }

def refillReservedAuth (nowMs : ℕ) (s : AdmissionState) : AdmissionState :=
  { s with
    reservedAuth := s.reservedAuth.refillRate config.reservedAuthRatePerSecond
      config.reservedAuthBurst nowMs }

def refillGlobalFlow (nowMs : ℕ) (s : AdmissionState) : AdmissionState :=
  { s with globalFlow := s.globalFlow.refillRate config.globalRatePerSecond config.globalBurst nowMs }

def refillPrincipals (nowMs : ℕ) (s : AdmissionState) : AdmissionState :=
  { s with
    principals := Keyed.updateWhere (fun _ _ => true)
      (fun b => b.refillRate b.ratePerSecond b.burst nowMs) s.principals }

def snapshot (s : AdmissionState) : AdmissionHealthSnapshot where
  throttledDropCount := s.throttledDropCount
  queueHighWater := s.queueHighWater
  throttleActive := s.throttleActive
  queueCurrent := s.queueCurrent
  queuePressurePercent := capacityPressurePercent s.queueCurrent s.queueCapacity
  requestPressurePercent := capacityPressurePercent s.requestCurrent s.requestCapacity
  connectionPressurePercent := capacityPressurePercent s.connectionCurrent s.connectionCapacity
  authPressurePercent := bucketPressurePercent s.auth
  globalFlowPressurePercent := bucketPressurePercent s.globalFlow
  principalPressurePercent := (s.principals.entries.map fun e => bucketPressurePercent e.2).foldl max 0
  sourceStateCount := s.sources.entries.length
  principalStateCount := s.principals.entries.length

def healthSnapshot (nowMs : ℕ) (s : AdmissionState) : AdmissionHealthSnapshot × AdmissionState :=
  let s := (((s.refillAuth config nowMs).refillGlobalFlow config nowMs).refillPrincipals
    nowMs).maybeRecover config nowMs
  (s.snapshot, s)

def isThrottledSource (peer : IpAddr) (s : AdmissionState) : Bool :=
  (s.sources.lookup peer).any fun source => config.preAuthFailuresPerWindow ≤ source.failures

def rememberSource (peer : IpAddr) (nowMs : ℕ) (s : AdmissionState) : AdmissionState :=
  if s.sources.entries.length < config.preAuthSourceCapacity && (s.sources.lookup peer).isNone then
    { s with sources := s.sources.insert peer ⟨0, satU64 (nowMs + config.preAuthSourceTtlMs)⟩ }
  else s

def beginAuth (peer : IpAddr) (recentlyValidated : Bool) (nowMs : ℕ) (s : AdmissionState) :
    Except AdmissionDenied Unit × AdmissionState :=
  let s := { s with sources := Keyed.retain (fun _ source => nowMs < source.expiresAtMs) s.sources }
  if s.isThrottledSource config peer then (.error .throttled, s.noteDrop nowMs)
  else
    let s := s.refillAuth config nowMs
    let s := s.refillReservedAuth config nowMs
    if 1000 ≤ s.auth.tokensMilli then
      (.ok (), { s with auth := s.auth.take 1000 }.rememberSource config peer nowMs)
    else if recentlyValidated && 1000 ≤ s.reservedAuth.tokensMilli then
      (.ok (), { s with reservedAuth := s.reservedAuth.take 1000 }.rememberSource config peer nowMs)
    else (.error .throttled, s.noteDrop nowMs)

def recordAuthFailure (peer : IpAddr) (nowMs : ℕ) (s : AdmissionState) : AdmissionState :=
  match s.sources.lookup peer with
  | some source => { s with
      sources := s.sources.insert peer
        ⟨min (source.failures + 1) (2 ^ 32 - 1), satU64 (nowMs + config.preAuthSourceTtlMs)⟩ }
  | none => s

/-! ## Reservations -/

end AdmissionState

def AdmissionConfig.flow (config : AdmissionConfig) (flowClass : String) : Option FlowClassLimit :=
  match flowClass with
  | "low" => some config.lowFlow
  | "default" => some config.defaultFlow
  | "high" => some config.highFlow
  | _ => none

namespace AdmissionState

variable (config : AdmissionConfig)

/-- The bucket of a principal, made full at its first request and brought to the limits of its flow
class at every one. -/
def principalBucket (principalId : String) (flow : FlowClassLimit) (nowMs : ℕ) (s : AdmissionState) :
    TokenBucket :=
  let b := ((s.principals.lookup principalId).getD
    (.make flow.burst flow.ratePerSecond flow.burst nowMs)).refillRate flow.ratePerSecond flow.burst
      nowMs
  { b with
    capacityMilli := flow.burst * 1000
    ratePerSecond := flow.ratePerSecond
    burst := flow.burst
    tokensMilli := min b.tokensMilli (flow.burst * 1000) }

def reserveFlow (principalId : String) (flow : FlowClassLimit) (maximumCost nowMs : ℕ)
    (s : AdmissionState) : Except AdmissionDenied PrincipalReservation × AdmissionState :=
  let s := s.refillGlobalFlow config nowMs
  if (s.principals.lookup principalId).isNone
      && config.principalStateCapacity ≤ s.principals.entries.length then
    (.error .throttled, s.noteDrop nowMs)
  else
    let b := s.principalBucket principalId flow nowMs
    let s := { s with principals := s.principals.insert principalId b }
    let cost := maximumCost * 1000
    if s.globalFlow.tokensMilli < cost || b.tokensMilli < cost then
      (.error .throttled, s.noteDrop nowMs)
    else
      (.ok { principalId := principalId, reservedMilli := cost, consumedMilli := 1000
             globalCapacityMilli := config.globalBurst * 1000
             principalCapacityMilli := flow.burst * 1000, reservedAtMs := nowMs },
        { s with
          globalFlow := s.globalFlow.take cost
          principals := s.principals.insert principalId (b.take cost) })

def reservePrincipal (principalId flowClass : String) (maximumCost nowMs : ℕ) (s : AdmissionState) :
    Except AdmissionDenied PrincipalReservation × AdmissionState :=
  if maximumCost = 0 then (.error .throttled, s.noteDrop nowMs)
  else
    match config.flow flowClass with
    | none => (.error .throttled, s.noteDrop nowMs)
    | some flow => s.reserveFlow config principalId flow maximumCost nowMs

def onPrincipal (principalId : String) (f : TokenBucket → TokenBucket) (s : AdmissionState) :
    AdmissionState :=
  { s with principals := Keyed.updateWhere (fun id _ => id == principalId) f s.principals }

def refundUnused (r : PrincipalReservation) (s : AdmissionState) : AdmissionState :=
  let refund := r.reservedMilli - r.consumedMilli
  if refund = 0 then s
  else { s with globalFlow := s.globalFlow.giveBack refund r.globalCapacityMilli }.onPrincipal
    r.principalId fun b => b.giveBack refund r.principalCapacityMilli

end AdmissionState

def PrincipalReservation.noteConsumedBytes (bytes : ℕ) (r : PrincipalReservation) :
    PrincipalReservation :=
  { r with consumedMilli := min (r.consumedMilli + bytes * 1000) r.reservedMilli }

namespace AdmissionState

/-- Ends a reservation with what it has cost: a unit for the request, its bytes and its items. More
than was reserved is taken now, or the request is refused and all of the reservation is spent. -/
def reconcileAt (r : PrincipalReservation) (decodedBytes items observedAtMs : ℕ)
    (s : AdmissionState) : Except AdmissionDenied Unit × AdmissionState :=
  let actual := (1 + decodedBytes + items * 256) * 1000
  if r.reservedMilli < actual then
    let additional := actual - r.reservedMilli
    if s.globalFlow.tokensMilli < additional
        || !(s.principals.lookup r.principalId).any fun b => additional ≤ b.tokensMilli then
      (.error .throttled, s.noteDrop observedAtMs)
    else
      let s := { s with globalFlow := s.globalFlow.take additional }.onPrincipal r.principalId
        fun b => b.take additional
      let r := { r with reservedMilli := actual }
      (.ok (), s.refundUnused { r with consumedMilli := max r.consumedMilli actual })
  else (.ok (), s.refundUnused { r with consumedMilli := max r.consumedMilli actual })

end AdmissionState

/-! ## Calls and their readings -/

/-- A controller with its clock. `readings` are those that callers have taken and not used yet,
`begun` are calls that have a token and wait for a worker, `reservations` are not ended yet. -/
structure AdmissionController where
  state : AdmissionState
  clockMs : ℕ
  readings : List ℕ := []
  begun : List (ℕ × Bool) := []
  generalWorkers : ℕ
  reservedWorkers : ℕ
  reservations : List PrincipalReservation := []

inductive AdmissionEvent where
  | advance (ms : ℕ)
  | read
  | beginAuth (reading : ℕ) (peer : IpAddr) (recentlyValidated : Bool)
  | acquireWorker (call : ℕ)
  | releaseWorker (reserved : Bool)
  | recordAuthFailure (reading : ℕ) (peer : IpAddr)
  | recordThrottledDrop (reading : ℕ)
  | reservePrincipal (reading : ℕ) (principalId flowClass : String) (maximumCost : ℕ)
  | noteConsumedBytes (reservation bytes : ℕ)
  | reconcileAt (reading reservation decodedBytes items : ℕ)
  /-- Ended with the time of its reservation. -/
  | reconcile (reservation decodedBytes items : ℕ)
  | dropReservation (reservation : ℕ)
  | healthSnapshot (reading : ℕ)
  | noteQueueDepth (depth : ℕ)
  | noteCurrentCapacityPressure (queueCurrent queueCapacity requestCurrent requestCapacity
      connectionCurrent connectionCapacity : ℕ)
  | acknowledgeEpisodeEvents (events : List ThrottleEpisodeEvent)

namespace AdmissionController

variable (config : AdmissionConfig)

def new (nowMs : ℕ) : AdmissionController where
  state := .new config (satU64 nowMs)
  clockMs := nowMs
  generalWorkers := config.authWorkers
  reservedWorkers := config.reservedAuthWorkers

def withReading (c : AdmissionController) (reading : ℕ)
    (f : ℕ → AdmissionController → AdmissionController) : Option AdmissionController :=
  c.readings[reading]?.map fun nowMs => f nowMs { c with readings := c.readings.eraseIdx reading }

def onState (f : AdmissionState → AdmissionState) (c : AdmissionController) : AdmissionController :=
  { c with state := f c.state }

def beginAuth (peer : IpAddr) (recentlyValidated : Bool) (nowMs : ℕ) (c : AdmissionController) :
    AdmissionController :=
  match c.state.beginAuth config peer recentlyValidated nowMs with
  | (.ok (), state) => { c with state := state, begun := c.begun ++ [(nowMs, recentlyValidated)] }
  | (.error _, state) => { c with state := state }

/-- The part of `try_begin_auth` after the lock. -/
def acquireWorker (nowMs : ℕ) (recentlyValidated : Bool) (c : AdmissionController) :
    AdmissionController :=
  if 0 < c.generalWorkers then { c with generalWorkers := c.generalWorkers - 1 }
  else if recentlyValidated && 0 < c.reservedWorkers then
    { c with reservedWorkers := c.reservedWorkers - 1 }
  else c.onState (AdmissionState.noteDrop nowMs)

def reservePrincipal (principalId flowClass : String) (maximumCost nowMs : ℕ)
    (c : AdmissionController) : AdmissionController :=
  match c.state.reservePrincipal config principalId flowClass maximumCost nowMs with
  | (.ok r, state) => { c with state := state, reservations := c.reservations ++ [r] }
  | (.error _, state) => { c with state := state }

def endReservation (c : AdmissionController) (reservation : ℕ)
    (f : PrincipalReservation → AdmissionState → AdmissionState) : Option AdmissionController :=
  c.reservations[reservation]?.map fun r =>
    { c with state := f r c.state, reservations := c.reservations.eraseIdx reservation }

def step (c : AdmissionController) : AdmissionEvent → Option AdmissionController
  | .advance ms => some { c with clockMs := c.clockMs + ms }
  | .read => some { c with readings := c.readings ++ [satU64 c.clockMs] }
  | .beginAuth reading peer recentlyValidated =>
    c.withReading reading (beginAuth config peer recentlyValidated)
  | .acquireWorker call =>
    c.begun[call]?.map fun (nowMs, recentlyValidated) =>
      { c with begun := c.begun.eraseIdx call }.acquireWorker nowMs recentlyValidated
  | .releaseWorker reserved =>
    some (if reserved then { c with reservedWorkers := c.reservedWorkers + 1 }
      else { c with generalWorkers := c.generalWorkers + 1 })
  | .recordAuthFailure reading peer =>
    c.withReading reading fun nowMs => onState (AdmissionState.recordAuthFailure config peer nowMs)
  | .recordThrottledDrop reading =>
    c.withReading reading fun nowMs => onState (AdmissionState.noteDrop nowMs)
  | .reservePrincipal reading principalId flowClass maximumCost =>
    c.withReading reading (reservePrincipal config principalId flowClass maximumCost)
  | .noteConsumedBytes reservation bytes =>
    c.reservations[reservation]?.map fun r =>
      { c with reservations := c.reservations.set reservation (r.noteConsumedBytes bytes) }
  | .reconcileAt reading reservation decodedBytes items =>
    c.readings[reading]?.bind fun nowMs =>
      { c with readings := c.readings.eraseIdx reading }.endReservation reservation fun r s =>
        (s.reconcileAt r decodedBytes items nowMs).2
  | .reconcile reservation decodedBytes items =>
    c.endReservation reservation fun r s => (s.reconcileAt r decodedBytes items r.reservedAtMs).2
  | .dropReservation reservation => c.endReservation reservation fun r s => s.refundUnused r
  | .healthSnapshot reading =>
    c.withReading reading fun nowMs => onState fun s => (s.healthSnapshot config nowMs).2
  | .noteQueueDepth depth => some (c.onState (AdmissionState.noteQueueDepth depth))
  | .noteCurrentCapacityPressure queueCurrent queueCapacity requestCurrent requestCapacity
      connectionCurrent connectionCapacity =>
    some (c.onState (AdmissionState.noteCurrentCapacityPressure queueCurrent queueCapacity
      requestCurrent requestCapacity connectionCurrent connectionCapacity))
  | .acknowledgeEpisodeEvents events =>
    some (c.onState fun s => (s.acknowledgeEpisodeEvents events).2)

end AdmissionController

end Ingest

end EdgeNode
