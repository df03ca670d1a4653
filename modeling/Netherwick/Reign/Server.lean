import Netherwick.Reign.Command

/-! # The reign server

Requests are handled side by side. A command request reads the clock, then the availability of the
hardware cockpit, then the gate, then takes the queue; each is a step of its own, and anything may
happen between two of them. A prod request does not pass the gate. -/

namespace Netherwick.Reign

open Netherwick.Lib.Text

def hardwareTtlMinMs : Nat := 250
def hardwareTtlMaxMs : Nat := 500
def reignTtlMinMs : Nat := 100
def reignTtlMaxMs : Nat := 300000
def hardwareMaxForwardIntensity : Float32 := 0.15
def hardwareMaxTurnIntensity : Float32 := 0.25
def hardwareBodyStaleMs : Nat := 1000
def hardwareCriticalBattery : Float32 := 0.10
def hardwareWallClockFloorMs : Nat := 1600000000000

inductive StatusCode where
  | badRequest
  | internalServerError
  | forbidden
  deriving DecidableEq, Repr

structure ReignApiError where
  status : StatusCode
  message : String
  deriving DecidableEq, Repr

namespace ReignApiError

def badRequest (message : String) : ReignApiError := ⟨.badRequest, message⟩

def forbid (message : String) : ReignApiError := ⟨.forbidden, message⟩

end ReignApiError

structure BodyFlags where
  wheelDrop : Bool := false
  cliffLeft : Bool := false
  cliffFrontLeft : Bool := false
  cliffFrontRight : Bool := false
  cliffRight : Bool := false
  deriving DecidableEq, Repr

structure BodySense where
  lastUpdateMs : Nat
  flags : BodyFlags := {}
  batteryLevel : Float32 := 1
  charging : Bool := false
  deriving DecidableEq

structure ExtensionSense where
  name : String
  values : List Float32
  deriving DecidableEq

structure WorldSnapshot where
  body : BodySense
  nearestM : Option Float32 := none
  extensions : List ExtensionSense := []
  deriving DecidableEq

def hardwareBodyAgeMs (snapshot : WorldSnapshot) (nowMs : Nat) : Option Nat :=
  let bodyTime := snapshot.body.lastUpdateMs
  if bodyTime < hardwareWallClockFloorMs ∨ nowMs < bodyTime then none else some (nowMs - bodyTime)

def hardwareSnapshotBodyBlockReason (snapshot : WorldSnapshot) : Option String :=
  if snapshot.body.flags.wheelDrop then some "wheel drop active"
  else if snapshot.body.flags.cliffLeft || snapshot.body.flags.cliffFrontLeft
      || snapshot.body.flags.cliffFrontRight || snapshot.body.flags.cliffRight then
    some "cliff sensor active"
  else if snapshot.body.batteryLevel ≤ hardwareCriticalBattery && !snapshot.body.charging then
    some "battery is critical"
  else none

def hardwareSnapshotBlockReason (snapshot : WorldSnapshot) (nowMs : Nat) : Option String :=
  match hardwareBodyAgeMs snapshot nowMs with
  | some ageMs =>
    if ageMs ≤ hardwareBodyStaleMs then hardwareSnapshotBodyBlockReason snapshot
    else some s!"body snapshot stale: {ageMs} ms old"
  | none => hardwareSnapshotBodyBlockReason snapshot

structure HardwareControlStatus where
  available : Bool
  armed : Bool
  reason : Option String
  deriving DecidableEq, Repr

structure HardwareControlState where
  available : Bool := false
  armed : Bool := false
  mode : Option String := none
  source : Option String := none
  lastChangedMs : Option Nat := none
  deriving DecidableEq, Repr

namespace HardwareControlState

def realSlow : HardwareControlState where
  available := true
  mode := some "slow"
  source := some "real_robot"

def status (hardware : HardwareControlState) (snapshot : Option WorldSnapshot) (nowMs : Nat) :
    HardwareControlStatus where
  available := hardware.available
  armed := hardware.armed
  reason :=
    if !hardware.available then some "not a real slow robot session"
    else if hardware.mode ≠ some "slow" ∨ hardware.source ≠ some "real_robot" then
      some "robot runner is not in real slow mode"
    else
      match snapshot with
      | none => some "no body snapshot yet"
      | some snapshot => hardwareSnapshotBlockReason snapshot nowMs

end HardwareControlState

def finiteIntensity (value : Float32) : Except ReignApiError Float32 :=
  if !value.isFinite then .error (.badRequest "intensity must be finite") else .ok (clamp value 0 1)

def finiteAxis (value : Float32) : Except ReignApiError Float32 :=
  if !value.isFinite then .error (.badRequest "drive axis must be finite")
  else .ok (clamp value (-1) 1)

def sanitizeCommand : ReignCommand → Except ReignApiError ReignCommand
  | .go intensity durationMs => do
      .ok (.go (← finiteIntensity intensity) (clampMs durationMs 50 10000))
  | .reverse intensity durationMs => do
      .ok (.reverse (← finiteIntensity intensity) (clampMs durationMs 50 10000))
  | .drive forward turn durationMs => do
      .ok (.drive (← finiteAxis forward) (← finiteAxis turn) (clampMs durationMs 50 10000))
  | .turn direction intensity durationMs => do
      .ok (.turn direction (← finiteIntensity intensity) (clampMs durationMs 50 10000))
  | .explore durationMs => .ok (.explore (clampMs durationMs 250 30000))
  | .speak text =>
    let trimmed := trim text.toList
    if trimmed.isEmpty then .error (.badRequest "speak text cannot be empty")
    else .ok (.speak (String.ofList (trimmed.take 500)))
  | command => .ok command

def hardwareGateAppliesToCommand : ReignCommand → Bool
  | .stop | .go _ _ | .reverse _ _ | .drive _ _ _ | .turn _ _ _ => true
  | _ => false

def sanitizeHardwareCommand : ReignCommand → Except ReignApiError ReignCommand
  | .go intensity durationMs => do
      .ok (.go (atMost (← finiteIntensity intensity) hardwareMaxForwardIntensity)
        (clampMs durationMs hardwareTtlMinMs hardwareTtlMaxMs))
  | .reverse intensity durationMs => do
      .ok (.reverse (atMost (← finiteIntensity intensity) hardwareMaxForwardIntensity)
        (clampMs durationMs hardwareTtlMinMs hardwareTtlMaxMs))
  | .drive forward turn durationMs => do
      .ok (.drive
        (clamp (← finiteAxis forward) (-hardwareMaxForwardIntensity) hardwareMaxForwardIntensity)
        (clamp (← finiteAxis turn) (-hardwareMaxTurnIntensity) hardwareMaxTurnIntensity)
        (clampMs durationMs hardwareTtlMinMs hardwareTtlMaxMs))
  | .turn direction intensity durationMs => do
      .ok (.turn direction (atMost (← finiteIntensity intensity) hardwareMaxTurnIntensity)
        (clampMs durationMs hardwareTtlMinMs hardwareTtlMaxMs))
  | .stop => .ok .stop
  | _ => .error (.forbid "hardware cockpit only accepts Stop, Go, Reverse, Drive, and Turn")

def enforceHardwareCommandGate (status : HardwareControlStatus) (source : ReignSource)
    (mode : ReignMode) (command : ReignCommand) : Except ReignApiError Unit :=
  if command = .stop then .ok ()
  else if source ≠ .webRemote ∧ source ≠ .gamepad then
    .error (.forbid "hardware cockpit only accepts WebRemote or Gamepad drive commands")
  else if mode ≠ .direct then
    .error (.forbid "hardware cockpit drive commands must use Direct mode")
  else if !status.armed then .error (.forbid "hardware cockpit is disarmed; movement rejected")
  else
    match status.reason with
    | some reason => .error (.forbid s!"hardware cockpit movement rejected: {reason}")
    | none => .ok ()

structure ReignCommandRequest where
  mode : ReignMode := .direct
  command : ReignCommand
  priority : Float32 := 0.8
  ttlMs : Option Nat := none
  note : Option String := none
  source : Option ReignSource := none

/-- The locals of `enqueue_reign_command`. -/
structure CommandCall where
  nowMs : Nat
  source : ReignSource
  mode : ReignMode
  command : ReignCommand
  ttlMs : Nat
  priority : Float32
  note : Option String
  deriving DecidableEq

inductive ReignCall where
  /-- The clock is read and the command is well formed. -/
  | started (call : CommandCall)
  /-- The cockpit is available and the gate is still to be passed. -/
  | gated (call : CommandCall)
  /-- The input waits for the lock of the queue. -/
  | ready (input : ReignInput)
  deriving DecidableEq

def startCommand (nowMs : Nat) (request : ReignCommandRequest) : Except ReignApiError ReignCall := do
  let command ← sanitizeCommand request.command
  .ok (.started
    { nowMs := nowMs
      source := request.source.getD .webRemote
      mode := request.mode
      command := command
      ttlMs := request.ttlMs.getD command.defaultTtlMs
      priority := request.priority
      note := request.note })

def CommandCall.input (call : CommandCall) : ReignInput where
  issuedAtMs := call.nowMs
  expiresAtMs := saturate (call.nowMs + clampMs call.ttlMs reignTtlMinMs reignTtlMaxMs)
  source := call.source
  mode := call.mode
  command := call.command
  priority := clamp call.priority 0 1
  note := call.note.filter fun note => !(trim note.toList).isEmpty

def readAvailability (status : HardwareControlStatus) (call : CommandCall) :
    Except ReignApiError ReignCall :=
  if status.available && hardwareGateAppliesToCommand call.command then do
    let command ← sanitizeHardwareCommand call.command
    .ok (.gated
      { call with
        command := command
        ttlMs := clampMs call.ttlMs hardwareTtlMinMs hardwareTtlMaxMs })
  else .ok (.ready call.input)

def passGate (status : HardwareControlStatus) (call : CommandCall) :
    Except ReignApiError ReignCall := do
  enforceHardwareCommandGate status call.source call.mode call.command
  .ok (.ready call.input)

structure NudgePolicy where
  requireClearanceM : Float32 := 0.35

def NudgePolicy.virtualDefault : NudgePolicy := {}

def simStuckActive (snapshot : WorldSnapshot) : Bool :=
  match snapshot.extensions.reverse.find? fun extension => extension.name = "sim.stuck" with
  | some ⟨_, value :: _⟩ => value.isFinite && 0 < value
  | _ => false

def forwardClear (snapshot : WorldSnapshot) (clearanceM : Float32) : Bool :=
  match snapshot.nearestM with
  | some nearest => clearanceM ≤ nearest
  | none => true

/-- A snapshot has no `safety.vetoed` extension that is a truth value. -/
def nudgeGeneralBlockReason (snapshot : WorldSnapshot) : Option String :=
  if snapshot.body.flags.wheelDrop then some "wheel drop detected"
  else if snapshot.body.batteryLevel ≤ 0.10 then some "battery is critical"
  else if simStuckActive snapshot then some "stuck recovery active"
  else none

def nudgeActionBlockReason (snapshot : WorldSnapshot) (action : ActionPrimitive)
    (policy : NudgePolicy) : Option String :=
  match nudgeGeneralBlockReason snapshot with
  | some reason => some reason
  | none =>
    if 0 < (actionToMotorCommand action).forward
        && !forwardClear snapshot policy.requireClearanceM then
      some "forward path clearance is below 0.35 m"
    else none

structure ProdRequest where
  kind : Option String := none
  intensity : Option Float32 := none
  durationMs : Option Nat := none

def prodIntensity : Option Float32 → Except ReignApiError Float32
  | some value =>
    if value.isFinite then .ok (clamp value 0 0.25)
    else .error (.badRequest "intensity must be finite")
  | none => .ok (clamp 0.12 0 0.25)

def prodCommandFromRequest (request : ProdRequest) : Except ReignApiError ReignCommand := do
  let durationMs := clampMs (request.durationMs.getD 1500) 250 3000
  let intensity ← prodIntensity request.intensity
  let kind := String.ofList ((trim (request.kind.getD "explore").toList).map Char.toLower)
  let command ←
    if kind ∈ ["", "explore", "random_walk", "random-walk"] then .ok (.explore durationMs)
    else if kind ∈ ["go", "forward"] then
      .ok (.go (atMost intensity 0.15) (min durationMs 1000))
    else if kind ∈ ["reverse", "back", "backward"] then
      .ok (.reverse (atMost intensity 0.15) (min durationMs 1000))
    else if kind ∈ ["turn", "left"] then
      .ok (.turn .left (atMost intensity 0.25) (min durationMs 1000))
    else if kind = "right" then
      .ok (.turn .right (atMost intensity 0.25) (min durationMs 1000))
    else .error (.badRequest s!"unsupported prod kind '{kind}'")
  sanitizeCommand command

def postReignProd (snapshot : Option WorldSnapshot) (nowMs : Nat) (request : ProdRequest) :
    Except ReignApiError ReignCall :=
  match snapshot with
  | none => .error (.badRequest "cannot prod before a live scene snapshot exists")
  | some snapshot => do
      let command ← prodCommandFromRequest request
      match command.toAction with
      | none => .error (.badRequest "prod command cannot be converted to action")
      | some action =>
        match nudgeActionBlockReason snapshot action .virtualDefault with
        | some reason => .error (.forbid s!"prod refused: {reason}")
        | none =>
          .ok (.ready
            { issuedAtMs := nowMs
              expiresAtMs := saturate (nowMs + clampMs command.defaultTtlMs 500 5000)
              source := .humanSupervisor
              mode := .assist
              command := command
              priority := 0.8
              note := some "manual prod" })

structure ReignServerState where
  hardware : HardwareControlState
  latestSnapshot : Option WorldSnapshot
  clock : Nat
  queue : ReignQueue
  calls : List ReignCall
  deriving DecidableEq

inductive ReignEvent where
  | request (request : ReignCommandRequest)
  | available (index : Nat)
  | gate (index : Nat)
  | push (index : Nat)
  | prod (request : ProdRequest)
  | arm
  | disarm
  | observe (snapshot : WorldSnapshot)
  | tick (nowMs : Nat)
  | drain (nowMs : Nat)
  | clear

def disarmedInput (nowMs : Nat) : ReignInput where
  issuedAtMs := nowMs
  expiresAtMs := saturate (nowMs + hardwareTtlMaxMs)
  source := .webRemote
  mode := .direct
  command := .stop
  priority := 1
  note := some "hardware cockpit disarmed"

namespace ReignServerState

def hardwareControlStatus (state : ReignServerState) (nowMs : Nat) : HardwareControlStatus :=
  state.hardware.status state.latestSnapshot nowMs

/-- A new request, unless it is answered with an error at once. -/
def accept (state : ReignServerState) : Except ReignApiError ReignCall → ReignServerState
  | .ok call => { state with calls := state.calls ++ [call] }
  | .error _ => state

/-- A request goes on or is answered with an error. -/
def settle (state : ReignServerState) (index : Nat) :
    Except ReignApiError ReignCall → ReignServerState
  | .ok call => { state with calls := state.calls.set index call }
  | .error _ => { state with calls := state.calls.eraseIdx index }

def step (state : ReignServerState) : ReignEvent → ReignServerState
  | .request request => state.accept (startCommand state.clock request)
  | .available index =>
    match state.calls[index]? with
    | some (.started call) =>
      state.settle index (readAvailability (state.hardwareControlStatus call.nowMs) call)
    | _ => state
  | .gate index =>
    match state.calls[index]? with
    | some (.gated call) =>
      state.settle index (passGate (state.hardwareControlStatus call.nowMs) call)
    | _ => state
  | .push index =>
    match state.calls[index]? with
    | some (.ready input) =>
      { state with queue := state.queue.push input, calls := state.calls.eraseIdx index }
    | _ => state
  | .prod request => state.accept (postReignProd state.latestSnapshot state.clock request)
  | .arm =>
    if state.hardware.available then
      { state with
        hardware := { state.hardware with armed := true, lastChangedMs := some state.clock } }
    else state
  | .disarm =>
    { state with
      hardware := { state.hardware with armed := false, lastChangedMs := some state.clock }
      calls := state.calls ++ [.ready (disarmedInput state.clock)] }
  | .observe snapshot => { state with latestSnapshot := some snapshot }
  | .tick nowMs => { state with clock := nowMs }
  | .drain nowMs => { state with queue := state.queue.drainExpired nowMs }
  | .clear => { state with queue := state.queue.clear }

end ReignServerState

end Netherwick.Reign
