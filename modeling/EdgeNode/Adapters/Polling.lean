import EdgeNode.Lib.Hex

/-!
# The polling runtime of an I2C bus

A cycle asks the driver of each target on a blocking thread, under the states as they stand, and
applies the outcomes afterwards, in the order of the targets. A driver answers, refuses or panics; a
panic is caught target by target. `ι` are the identities a driver recognises and `ρ` its readings.
-/

namespace EdgeNode

namespace Polling

def maxReadFailures : ℕ := 5

def maxDetectFailures : ℕ := 10

def maxInitFailures : ℕ := 5

/-- How a call into a driver ends. A panic carries its message, unless its payload is no text. -/
inductive CallResult (α : Type) where
  | ok (value : α)
  | error (message : String)
  | panicked (payload : Option String)
  deriving DecidableEq, Repr

def panicMessage (payload : Option String) : String := payload.getD "unknown panic"

structure DriverAnswers (ι ρ : Type) where
  detect : CallResult ι
  init : CallResult Unit
  read : CallResult ρ
  observedAt : ℤ

inductive PollingEvent (ι ρ : Type) where
  | deviceDiscovered (deviceKey : String) (identity : ι)
  | sensorData (deviceKey : String) (reading : ρ) (rssi : Option ℤ) (batteryPct : Option ℕ)
      (ingestedAt : ℤ)
  | deviceLost (deviceKey reason : String)
  | adapterError (deviceKey : Option String) (error : String)
  deriving DecidableEq, Repr

/-! ## The configuration -/

/-- The part of a driver that does not touch the bus. -/
structure SensorDriver where
  icName : String
  validate : ℕ → Except String Unit

structure SensorTargetConfig where
  address : UInt8
  driver : SensorDriver
  keySuffix : Option String

structure PollingAdapterConfig where
  busPath : String
  pollIntervalMs : ℕ
  targets : List SensorTargetConfig

/-- `{:02x}` of a byte. -/
def hex (address : UInt8) : String := String.ofList (hexDigits 2 address.toNat)

/-- `{:02X}` of a byte. -/
def hexUpper (address : UInt8) : String :=
  String.ofList ((hexDigits 2 address.toNat).map Char.toUpper)

def validateTargets (pollIntervalMs : ℕ) : List UInt8 → List SensorTargetConfig → Except String Unit
  | _, [] => .ok ()
  | seen, target :: targets =>
    if ¬ (0x08 ≤ target.address ∧ target.address ≤ 0x77) then
      .error ("address 0x" ++ hexUpper target.address ++ " is outside valid I2C range 0x08..=0x77")
    else if seen.contains target.address then
      .error ("duplicate address 0x" ++ hexUpper target.address)
    else do
      target.driver.validate pollIntervalMs
      validateTargets pollIntervalMs (target.address :: seen) targets

def validateConfig (config : PollingAdapterConfig) : Except String Unit :=
  if config.busPath.isEmpty then .error "bus_path must not be empty"
  else if config.pollIntervalMs = 0 then .error "poll_interval_ms must be > 0"
  else if config.targets.isEmpty then .error "targets must not be empty"
  else validateTargets config.pollIntervalMs [] config.targets

structure TargetRuntime where
  address : UInt8
  keySuffix : String
  deriving DecidableEq, Repr

def PollingAdapterConfig.runtimes (config : PollingAdapterConfig) : List TargetRuntime :=
  config.targets.map fun t => ⟨t.address, t.keySuffix.getD t.driver.icName⟩

def deviceKeyFor (address : UInt8) (keySuffix : String) : String :=
  "i2c:0x" ++ hex address ++ ":" ++ keySuffix

def TargetRuntime.key (target : TargetRuntime) : String :=
  deviceKeyFor target.address target.keySuffix

/-! ## A cycle -/

inductive TargetState (ι : Type) where
  | pending (consecutiveDetectFailures : ℕ) (escalationEmitted : Bool)
  | detected (identity : ι) (consecutiveInitFailures : ℕ)
  | active (key : String) (consecutiveReadFailures : ℕ)
  deriving DecidableEq, Repr

def TargetState.newPending {ι : Type} : TargetState ι := .pending 0 false

inductive PollOutcome (ι ρ : Type) where
  | discovered (targetIndex : ℕ) (key : String) (identity : ι)
  | initFailed (targetIndex : ℕ) (identity : ι) (message : String) (isPanic : Bool)
  | reading (key : String) (reading : ρ) (observedAt : ℤ)
  | readError (targetIndex : ℕ) (key message : String) (isPanic : Bool)
  | detectFailed (targetIndex : ℕ) (message : String) (isPanic : Bool)
  deriving DecidableEq, Repr

variable {ι ρ : Type}

def driverPanic (phase busPath : String) (target : TargetRuntime) (payload : Option String) :
    String :=
  "driver panic during " ++ phase ++ " 0x" ++ hex target.address ++ "@" ++ busPath ++ ": "
    ++ panicMessage payload

def initTarget (busPath : String) (i : ℕ) (target : TargetRuntime) (identity : ι) :
    CallResult Unit → PollOutcome ι ρ
  | .ok () => .discovered i target.key identity
  | .error message => .initFailed i identity message false
  | .panicked payload => .initFailed i identity (driverPanic "init" busPath target payload) true

def pollTarget (busPath : String) (i : ℕ) (target : TargetRuntime) (answers : DriverAnswers ι ρ) :
    TargetState ι → PollOutcome ι ρ
  | .pending _ _ =>
    match answers.detect with
    | .ok identity => initTarget busPath i target identity answers.init
    | .error message => .detectFailed i message false
    | .panicked payload => .detectFailed i (driverPanic "detect" busPath target payload) true
  | .detected identity _ => initTarget busPath i target identity answers.init
  | .active key _ =>
    match answers.read with
    | .ok reading => .reading key reading answers.observedAt
    | .error message => .readError i key message false
    | .panicked payload => .readError i key (driverPanic "read" busPath target payload) true

/-- There are as many states as targets. -/
def pollCycle (targets : List TargetRuntime) (states : List (TargetState ι)) (busPath : String)
    (answers : ℕ → DriverAnswers ι ρ) : List (PollOutcome ι ρ) :=
  (targets.zip states).zipIdx.map fun t => pollTarget busPath t.2 t.1.1 (answers t.2) t.1.2

def resetReadFailures (key : String) : List (TargetState ι) → List (TargetState ι)
  | [] => []
  | .active k n :: states =>
    if k = key then .active k 0 :: states else .active k n :: resetReadFailures key states
  | state :: states => state :: resetReadFailures key states

def targetName (targets : List TargetRuntime) (i : ℕ) : String :=
  "target 0x" ++ (targets[i]?).elim "" fun t => hex t.address

/-- The failures to detect are counted in 32 bits, the other counters stay below their bounds. -/
def applyOutcome (targets : List TargetRuntime) (states : List (TargetState ι)) :
    PollOutcome ι ρ → List (TargetState ι) × List (PollingEvent ι ρ)
  | .discovered i key identity => (states.set i (.active key 0), [.deviceDiscovered key identity])
  | .initFailed i identity message _ =>
    let newFailures := match states[i]? with
      | some (.detected _ failures) => failures + 1
      | _ => 1
    (states.set i (if maxInitFailures ≤ newFailures then .newPending
        else .detected identity newFailures),
      [.adapterError none ("init failed (" ++ toString newFailures ++ "/"
        ++ toString maxInitFailures ++ "): " ++ message)])
  | .reading key reading observedAt =>
    (resetReadFailures key states, [.sensorData key reading none none observedAt])
  | .readError i key message _ =>
    match states[i]? with
    | some (.active k failures) =>
      let n := failures + 1
      if maxReadFailures ≤ n then
        (states.set i .newPending, [.adapterError (some key) message,
          .deviceLost key ("consecutive read failures (" ++ toString n ++ "): " ++ message)])
      else (states.set i (.active k n), [.adapterError (some key) message])
    | _ => (states, [])
  | .detectFailed i message isPanic =>
    match states[i]? with
    | some (.pending failures escalationEmitted) =>
      let n := (failures + 1) % 2 ^ 32
      if isPanic then
        (states.set i (.pending n escalationEmitted), [.adapterError none
          (targetName targets i ++ " detect failed (driver panic): " ++ message)])
      else if maxDetectFailures ≤ n ∧ escalationEmitted = false then
        (states.set i (.pending n true), [.adapterError none (targetName targets i
          ++ " detect failed " ++ toString n ++ " consecutive times: " ++ message)])
      else (states.set i (.pending n escalationEmitted), [])
    | _ => (states, [])

def applyOutcomes (targets : List TargetRuntime) :
    List (TargetState ι) → List (PollOutcome ι ρ) → List (TargetState ι) × List (PollingEvent ι ρ)
  | states, [] => (states, [])
  | states, outcome :: outcomes =>
    let r := applyOutcome targets states outcome
    let rest := applyOutcomes targets r.1 outcomes
    (rest.1, r.2 ++ rest.2)

def cycle (targets : List TargetRuntime) (busPath : String) (states : List (TargetState ι))
    (answers : ℕ → DriverAnswers ι ρ) : List (TargetState ι) × List (PollingEvent ι ρ) :=
  applyOutcomes targets states (pollCycle targets states busPath answers)

def busRun (targets : List TargetRuntime) (busPath : String) :
    List (TargetState ι) → List (ℕ → DriverAnswers ι ρ) → List (List (PollingEvent ι ρ))
  | _, [] => []
  | states, answers :: rest =>
    let r := cycle targets busPath states answers
    r.2 :: busRun targets busPath r.1 rest

/-! ## The loop -/

def PollOutcome.isProbeFailure : PollOutcome ι ρ → Bool
  | .detectFailed _ _ _ | .initFailed _ _ _ _ => true
  | _ => false

def allFailed (outcomes : List (PollOutcome ι ρ)) : Bool :=
  !outcomes.isEmpty && outcomes.all PollOutcome.isProbeFailure

/-- The loop after the startup. A cycle whose task fails is the last one. -/
def mainLoop (targets : List TargetRuntime) (busPath : String) :
    List (TargetState ι) → List (Except String (ℕ → DriverAnswers ι ρ)) → List (PollingEvent ι ρ)
  | _, [] => []
  | _, .error e :: _ => [.adapterError none ("fatal: poll cycle task failed: " ++ e)]
  | states, .ok answers :: rest =>
    let r := cycle targets busPath states answers
    r.2 ++ mainLoop targets busPath r.1 rest

def startupFailure (targets : List TargetRuntime) (busPath : String) : PollingEvent ι ρ :=
  .adapterError none ("all targets failed startup probe on bus " ++ busPath ++ ": ["
    ++ ", ".intercalate (targets.map fun t => "0x" ++ hex t.address) ++ "]")

/-- All events of an adapter that is asked for the cycles given; the first one is the startup probe.
The loop ends with its channel or on command, so what is delivered is the beginning of this. -/
def pollingLoop (config : PollingAdapterConfig)
    (cycles : List (Except String (ℕ → DriverAnswers ι ρ))) : List (PollingEvent ι ρ) :=
  let targets := config.runtimes
  let states := targets.map fun _ => TargetState.newPending
  if targets.isEmpty then mainLoop targets config.busPath states cycles
  else
    match cycles with
    | [] => []
    | .error e :: _ => [.adapterError none ("fatal: startup probe task failed: " ++ e)]
    | .ok answers :: rest =>
      let outcomes := pollCycle targets states config.busPath answers
      let r := applyOutcomes targets states outcomes
      r.2 ++ (if allFailed outcomes then [startupFailure targets config.busPath] else [])
        ++ mainLoop targets config.busPath r.1 rest

end Polling

end EdgeNode
