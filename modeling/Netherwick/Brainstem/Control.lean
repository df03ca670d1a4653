import Netherwick.Brainstem.Runtime.Lifecycle
import Netherwick.Brainstem.Trace

/-! # The control skeleton

What decides about admission, lifecycle and power, apart from telemetry, timers and sound. A step
of the skeleton is one indivisible change; its hypotheses are the checks that the runtime has made
by then. -/

namespace Netherwick.Brainstem

open Netherwick.Lib

structure Control where
  commands : List QueuedCommand
  mode : RuntimeMode
  active : ActiveAction
  activeCommandId : Option UInt32
  executing : Option Execution
  safetyRecoveryMotion : Bool
  safetyLatched : Bool
  safetyLatchKind : Option SafetyEventKind
  hazardGeneration : UInt32
  withdrawing : Bool
  estopLatched : Bool
  dockDeparturePending : Bool
  carefulModeUntilMs : Option UInt32
  dispatching : Option (UInt32 × Bool)
  mailbox : Mailbox
  /-- The events that could decide a wake. -/
  inbox : List BrainstemEvent
  nowMs : UInt32
  powerToggle : Bool
  log : List Obs

def World.control (w : World) : Control where
  commands := w.rt.commands.items
  mode := w.rt.mode
  active := w.rt.active
  activeCommandId := w.rt.activeCommandId
  executing := w.rt.executing
  safetyRecoveryMotion := w.rt.safetyRecoveryMotion
  safetyLatched := w.rt.safetyLatched
  safetyLatchKind := w.rt.safetyLatchKind
  hazardGeneration := w.dev.st.hazardGeneration
  withdrawing := w.rt.activeContactWithdrawal.isSome
  estopLatched := w.rt.estopLatched
  dockDeparturePending := w.rt.dockDeparturePending
  carefulModeUntilMs := w.rt.carefulModeUntilMs
  dispatching := w.rt.dispatching
  mailbox := w.dev.st.mailbox
  inbox := w.dev.events.items.filter decisive
  nowMs := w.nowMs
  powerToggle := w.dev.hw.powerToggle
  log := w.dev.st.log

namespace Control

variable (c : Control)

def observe (o : Obs) : Control := { c with log := o :: c.log }

def settled (kind : PublicEventKind) (seq : UInt32) : Control :=
  { c with
    activeCommandId := none
    safetyRecoveryMotion := false
    log := match c.activeCommandId with
      | some id => .event seq kind id 0 0 :: c.log
      | none => c.log }

def interrupted (seq : UInt32) : Control :=
  { c with
    powerToggle := !c.active.isPowerPulse && c.powerToggle
    log := if c.active.isPowerPulse then .powerToggle false :: c.log else c.log }.settled
    .commandInterrupted seq

def latchedAs (kind : Option SafetyEventKind) : Control :=
  { c with safetyLatched := kind.isSome, safetyLatchKind := kind, log := .latch kind :: c.log }

/-- A trip is on record; its sequence number is the hazard generation from now on. -/
def tripped (kind : SafetyEventKind) (seq : UInt32) : Control :=
  { c with hazardGeneration := seq, log := .event seq .safetyTripped kind.code 0 0 :: c.log }

def hazardOver (kind : SafetyEventKind) (seq : UInt32) : Control :=
  { c with hazardGeneration := 0, log := .event seq .safetyCleared kind.code 0 0 :: c.log }

def noted (recent : List Obs) : Control := { c with log := recent ++ c.log }

def running : Option RuntimeCommand := c.executing.map (·.queued.command)

/-- The checks made before a latch of this kind is lifted. -/
structure Lifts (kind : SafetyEventKind) (cause : LiftCause) : Prop where
  held : c.safetyLatchKind = some kind
  allowed : liftAllowed kind cause = true
  running : match cause with
    | .cleared command _ => command = c.running
    | .careful command _ => command = c.running ∧
        (command = none → c.carefulModeUntilMs ≠ none)
    | .homeBase => True

/-- A decisive event was pushed, into a queue that may have been full. -/
def Received (event : BrainstemEvent) (inbox' : List BrainstemEvent) : Prop :=
  inbox' = c.inbox ++ [event] ∨ inbox' = c.inbox

/-- The error path was entered: its record, and the event it pushed. -/
def errorEntered (seq code : UInt32) (inbox' : List BrainstemEvent) : Control :=
  { (c.observe (.errorEntered c.powerToggle)).observe (.event seq .error code 0 0) with
    inbox := inbox' }

/-- The waiting step found an answer in the inbox. -/
def wakeDecided : Control :=
  { c with
    inbox := [], log := .wakeAnswered :: .wakeDrained (!c.inbox.isEmpty) :: c.log }

/-- Do the latches let a queued command move the robot? -/
def permitsMotion : Prop :=
  c.estopLatched = false ∧ (c.safetyLatched = true →
    c.safetyRecoveryMotion = true ∧ recoverableSafetyLatch c.safetyLatchKind = true)

def durationOf : RuntimeCommand → Option UInt32
  | .driveDirect _ _ duration | .cmdVel _ _ duration | .driveArc _ _ duration => duration
  | .escapeMotion _ _ _ _ ttlMs => some ttlMs
  | .calibrateTurn _ duration | .orientationProbe _ duration | .drive _ _ duration =>
    some duration
  | _ => none

/-- An escape is on its way to the wheels only after it was admitted for the hazard generation of
that moment, under the one duration that is allowed. -/
def Admitted (execution : Execution) : Prop :=
  match execution.queued.command with
  | .escapeMotion _ generation _ _ ttlMs =>
    execution.admittedFor = some generation ∧ ttlMs = Status.escapeTtlMs
  | _ => True

/-- The trace of an id that is given a life it should not have. -/
def traced (commandId : UInt32) : Control :=
  { c with log := match c.dispatching with
    | some (_, false) => c.log
    | some (id, true) => .revived id :: c.log
    | none => .requeued commandId :: c.log }

def isFull : Bool := commandQueueCapacity ≤ c.commands.length

def pushed (front : Bool) (queued : QueuedCommand) : Control :=
  { c with
    commands := if c.isFull then c.commands
      else if front then queued :: c.commands else c.commands ++ [queued]
    log := if c.isFull then .queueFull queued.commandId :: c.log else c.log }

/-- The trace of an id that is dropped; a renewal has its record already. -/
def forgotten (trace : UInt32 → Obs) : Control :=
  { c with log := match c.dispatching with
    | some (id, false) => trace id :: c.log
    | _ => c.log }

def released : Control := { c with dispatching := none }

/-- The id is the one in hand. -/
def Holds (commandId : UInt32) : Prop := ∀ id renewal, c.dispatching = some (id, renewal) →
  commandId = id

/-- What a take leaves in the mailbox, and what it takes. -/
inductive Takes (mb : Mailbox) : Mailbox → UInt32 → Bool → Prop
  | command (h : mb.commandKind ≠ .none) :
      Takes mb { mb with commandKind := .none } mb.commandId false
  | velocity (hcommand : mb.commandKind = .none) (h : mb.velocityKind = .cmdVel) :
      Takes mb { mb with velocityKind := .none, velocityIsRenewal := false } mb.velocityId
        mb.velocityIsRenewal

/-- When a power pulse is begun: to put a Create to sleep that is known to be on, to wake one that is
known to be off, or to wake one that has not answered in time. -/
def Causes (wakeWaitUntilMs : Option UInt32) : PulseCause → Prop
  | .sleep powerState => wakeWaitUntilMs = none ∧ powerState = some true
  | .wake powerState => powerState = some false ∧ ∀ o ∈ sinceWake c.log, o.plain = true
  | .timeout nowMs deadlineMs => nowMs = c.nowMs ∧ timeReached nowMs deadlineMs = true ∧
      ∃ nextProbeMs responseBytes oiStarted,
        c.active = .waitForCreate deadlineMs nextProbeMs responseBytes oiStarted true

def withdrawal : QueuedCommand := ⟨0, World.contactWithdrawalCommand, true⟩

/-- The id is in hand, or the script that it came with has queued it before. -/
def Given (commandId : UInt32) : Prop :=
  c.dispatching ≠ none ∨ (∃ queued ∈ c.commands, queued.commandId = commandId ∧ queued ≠ withdrawal) ∨
    ∃ past, c.log = .queueFull commandId :: past

/-- A trip that sets no latch comes right after the record of its reason. -/
inductive Announced : SafetyEventKind → List Obs → Prop
  | eStop (seq : UInt32) (past : List Obs) :
      Announced .eStop (.event seq .eStopLatched 1 0 0 :: .eStopRan true :: past)
  | heartbeat (seq : UInt32) (past : List Obs) :
      Announced .heartbeat (.event seq .heartbeatExpired 0 0 0 :: past)

def RecoveryIsEscape (queued : QueuedCommand) : Prop :=
  queued.safetyRecovery = true → isQueuedEscape queued
where
  isQueuedEscape (queued : QueuedCommand) : Prop :=
    ∃ kind generation linear angular ttlMs,
      queued.command = .escapeMotion kind generation linear angular ttlMs

theorem RecoveryIsEscape.ne_withdrawal {queued : QueuedCommand} (h : RecoveryIsEscape queued) :
    queued ≠ withdrawal := by
  rintro rfl
  obtain ⟨_, _, _, _, _, hescape⟩ := h rfl
  cases hescape

/-- One indivisible change. -/
inductive Step : Control → Control → Prop
  | note (c : Control) (o : Obs) (h : o.plain = true) : Step c (c.observe o)
  | move (c : Control) (frame : List UInt8) (written : Nat) (hmoves : moves frame = true)
      (hgate : c.permitsMotion ∨ dockLicence c.log = true) : Step c (c.observe (.sent frame written))
  -- what comes from the Create
  | packet (c : Control) (packetId : UInt8) (bytes : List UInt8) (inbox' : List BrainstemEvent)
      (h : c.Received (.createPacketReceived packetId bytes) inbox') :
      Step c { c with inbox := inbox', log := .packetReceived packetId :: c.log }
  | invalid (c : Control) (inbox' : List BrainstemEvent)
      (h : c.Received (.error .invalidPacket) inbox') :
      Step c { c with inbox := inbox', log := .packetInvalid :: c.log }
  -- the error path
  | fail (c : Control) (error : BrainstemError) (kind : PublicEventKind)
      (seq seq' code : UInt32) (inbox' : List BrainstemEvent) (hkind : kind.terminal = true)
      (h : c.Received (.error error) inbox') :
      Step c { (c.errorEntered seq code inbox').settled kind seq' with active := .none }
  -- the lifecycle of a command
  | take (c : Control) (mailbox' : Mailbox) (id : UInt32) (renewal : Bool)
      (hfree : c.dispatching = none) (h : Takes c.mailbox mailbox' id renewal) :
      Step c { c with mailbox := mailbox', dispatching := some (id, renewal) }
  | queue (c : Control) (front : Bool) (queued : QueuedCommand) (hid : c.Holds queued.commandId)
      (hgiven : c.Given queued.commandId) (hfree : c.withdrawing = false)
      (hrecovery : RecoveryIsEscape queued) :
      Step c ((c.traced queued.commandId).pushed front queued).released
  | refuse (c : Control) (commandId seq : UInt32) (hid : c.Holds commandId)
      (hheld : c.dispatching ≠ none) :
      Step c ((c.traced commandId).observe (.event seq .commandInterrupted commandId 0 0)).released
  | drop (c : Control) (trace : UInt32 → Obs) (htrace : trace = .undecoded ∨ trace = .swallowed) :
      Step c (c.forgotten trace).released
  | purgeOne (c : Control) (before after : List QueuedCommand) (queued : QueuedCommand) (o : Obs)
      (hqueue : c.commands = before ++ queued :: after)
      (ho : o = .swallowed queued.commandId ∨
        ∃ seq, o = .event seq .commandInterrupted queued.commandId 0 0) :
      Step c { c with commands := before ++ after, log := o :: c.log }
  | clear (c : Control) :
      Step c { c with
        commands := [], log := .queueCleared (c.commands.map QueuedCommand.commandId) :: c.log }
  | purgeMotion (c : Control) :
      Step c { c with
        commands := c.commands.filter fun q => !isMotionCommand q.command
        log := .queueCleared ((c.commands.filter fun q => isMotionCommand q.command).map
          QueuedCommand.commandId) :: c.log }
  | begin (c : Control) (queued : QueuedCommand) (rest : List QueuedCommand) (seq code : UInt32)
      (hqueue : c.commands = queued :: rest) (hactive : c.active = .none)
      (hfree : c.executing = none) (hmode : c.mode = .running) :
      Step c { c with
        commands := rest, activeCommandId := some queued.commandId
        safetyRecoveryMotion := queued.safetyRecovery, executing := some ⟨queued, none⟩
        log := .ran queued.command :: .event seq .commandStarted queued.commandId code 0 :: c.log }
  | admission (c : Control) (queued : QueuedCommand)
      (hexecuting : c.executing = some ⟨queued, none⟩)
      (hadmitted : Admitted ⟨queued, some c.hazardGeneration⟩) :
      Step c { c with executing := some ⟨queued, some c.hazardGeneration⟩ }
  | settle (c : Control) (kind : PublicEventKind) (seq : UInt32) (hkind : kind.terminal = true) :
      Step c (c.settled kind seq)
  | interrupt (c : Control) (seq : UInt32) : Step c (c.interrupted seq)
  | endExecuting (c : Control) (h : c.active = .none → c.activeCommandId = none) :
      Step c { c with executing := none }
  | setMode (c : Control) (mode : RuntimeMode)
      (h : mode = .running ∨ c.active = .none ∧ c.executing = none) : Step c { c with mode }
  -- what the wheels are under
  | halt (c : Control) (hline : c.powerToggle = true → c.active.isPowerPulse = false)
      (hid : c.activeCommandId = none ∨ c.executing ≠ none ∨ c.active.isDockDeparture = true) :
      Step c { c with active := .none }
  | drive (c : Control) (execution : Execution) (durationMs : UInt32)
      (hactive : c.active = .none) (hexecuting : c.executing = some execution)
      (hduration : durationOf execution.queued.command = some durationMs)
      (hadmitted : Admitted execution)
      (hcurrent : ∀ generation, execution.admittedFor = some generation →
        generation = c.hazardGeneration)
      (hgate : c.permitsMotion) :
      Step c { c with
        active := .driving (c.nowMs + durationMs)
        log := .driveStarted (some execution) c.nowMs (c.nowMs + durationMs) :: c.log }
  | renew (c : Control) (durationMs : UInt32) (hactive : c.active.isDriving = true)
      (hfree : c.withdrawing = false) :
      Step c { c with
        active := .driving (c.nowMs + durationMs)
        log := .driveRenewed c.nowMs (c.nowMs + durationMs) c.safetyLatchKind :: c.log }
  | leaveDock (c : Control) : Step c (c.observe .dockDepartureRan)
  | depart (c : Control) (stopAtMs : UInt32) (hpending : c.dockDeparturePending = true)
      (hactive : c.active = .none) (hfree : c.executing = none) (hmode : c.mode = .running) :
      Step c { c with dockDeparturePending := false, active := .dockDeparture stopAtMs }
  -- latches
  | latchHalt (c : Control) (kind : SafetyEventKind) (seq seq' : UInt32) (between : List Obs)
      (hseq : seq ≠ 0) (hbetween : ∀ o ∈ between, o.plain = true)
      (hpending : c.dockDeparturePending = true → recoverableSafetyLatch (some kind) = false) :
      Step c { ((((c.tripped kind seq).noted between).latchedAs (some kind)).interrupted seq') with
        active := .none }
  | latch (c : Control) (kind : SafetyEventKind) (seq : UInt32) (between : List Obs)
      (hseq : seq ≠ 0) (hbetween : ∀ o ∈ between, o.plain = true) (hactive : c.active = .none)
      (hpending : c.dockDeparturePending = true → recoverableSafetyLatch (some kind) = false) :
      Step c (((c.tripped kind seq).noted between).latchedAs (some kind))
  | unlatch (c : Control) (kind : SafetyEventKind) (cause : LiftCause) (seq : UInt32)
      (between : List Obs) (hbetween : ∀ o ∈ between, o.plain = true) (h : c.Lifts kind cause) :
      Step c ((((c.hazardOver kind seq).noted between).observe (.lifting cause)).latchedAs none)
  -- trips and their ends that leave the latch alone
  | tripOnly (c : Control) (kind : SafetyEventKind) (seq : UInt32) (hseq : seq ≠ 0)
      (hannounced : Announced kind c.log)
      (hactive : c.active = .none ∨ c.withdrawing = true) : Step c (c.tripped kind seq)
  | tripHalt (c : Control) (seq seq' : UInt32) (hseq : seq ≠ 0)
      (hannounced : Announced .heartbeat c.log) :
      Step c { ((c.tripped .heartbeat seq).interrupted seq') with active := .none }
  | hazardOver (c : Control) (seq seq' : UInt32) (past : List Obs)
      (hannounced : c.log = .event seq' .eStopCleared 0 0 0 :: .clearEStopRan :: past)
      (hactive : c.active = .none) :
      Step c (c.hazardOver .eStop seq)
  | unlatchIdle (c : Control) (h : c.safetyLatchKind = none) : Step c { c with safetyLatched := false }
  | withdraw (c : Control) (starts : Bool) (hqueue : c.commands = []) (hactive : c.active = .none)
      (hexecuting : c.executing = none) (hcareful : c.carefulModeUntilMs = none)
      (hpending : c.dockDeparturePending = false) :
      Step c { (c.pushed true withdrawal) with withdrawing := c.withdrawing || starts }
  | endWithdrawal (c : Control) : Step c { c with withdrawing := false }
  | eStop (c : Control) (latched : Bool) :
      Step c { c with
        estopLatched := c.estopLatched || latched, log := .eStopRan latched :: c.log }
  | clearEStop (c : Control) :
      Step c { c with estopLatched := false, log := .clearEStopRan :: c.log }
  | setCareful (c : Control) (deadline : Option UInt32)
      (h : deadline ≠ none → c.dockDeparturePending = false ∧
        ∃ ttlMs, c.running = some (.carefulMode ttlMs)) :
      Step c { c with carefulModeUntilMs := deadline }
  | setPending (c : Control) (pending : Bool)
      (h : pending = true → c.carefulModeUntilMs = none ∧
        recoverableSafetyLatch c.safetyLatchKind = false ∧ c.withdrawing = false) :
      Step c { c with dockDeparturePending := pending }
  -- power and waking
  | pulse (c : Control) (cause : PulseCause) (releaseAtMs : UInt32)
      (wakeWaitUntilMs : Option UInt32) (powerOn : Bool) (hmode : c.executing ≠ none ∨ c.active ≠ .none)
      (hcause : c.Causes wakeWaitUntilMs cause) :
      Step c { c with
        active := .powerPulse releaseAtMs wakeWaitUntilMs powerOn, powerToggle := true
        log := .powerToggle true :: .pulseBegun cause :: c.log }
  | releasePulse (c : Control) (hactive : c.active.isPowerPulse = true) :
      Step c { c with powerToggle := false, log := .powerToggle false :: c.log }
  | settleWake (c : Control) (releaseAtMs untilMs : UInt32) (powerOn : Bool)
      (hactive : c.active = .powerPulse releaseAtMs (some untilMs) powerOn)
      (hline : c.powerToggle = false) : Step c { c with active := .wakeSettle untilMs }
  | rewait (c : Control) (untilMs deadlineMs nextProbeMs : UInt32)
      (hactive : c.active = .wakeSettle untilMs) :
      Step c { c with active := .waitForCreate deadlineMs nextProbeMs 0 false false }
  | beginWait (c : Control) (deadlineMs nextProbeMs : UInt32) (allow : Bool)
      (hexecuting : c.executing ≠ none) (hactive : c.active = .none)
      (hlog : ∀ o ∈ sinceWake c.log, o.plain = true) :
      Step c { c with active := .waitForCreate deadlineMs nextProbeMs 0 false allow }
  | keepWaiting (c : Control) (deadlineMs nextProbeMs nextProbeMs' : UInt32)
      (responseBytes : UInt8) (oiStarted oiStarted' allow : Bool)
      (hactive : c.active = .waitForCreate deadlineMs nextProbeMs responseBytes oiStarted allow) :
      Step c { c with active := .waitForCreate deadlineMs nextProbeMs' 0 oiStarted' allow }
  | beginSettle (c : Control) (untilMs : UInt32) (hexecuting : c.executing ≠ none)
      (hactive : c.active = .none) : Step c { c with active := .settle untilMs }
  | drained (c : Control) (h : c.inbox = []) : Step c (c.observe (.wakeDrained false))
  | probe (c : Control) (h : c.inbox = []) : Step c (c.observe .probeRequested)
  | answered (c : Control) (deadlineMs nextProbeMs seq : UInt32) (responseBytes : UInt8)
      (oiStarted allow : Bool)
      (hactive : c.active = .waitForCreate deadlineMs nextProbeMs responseBytes oiStarted allow)
      (h : responseBytes ≠ 0 ∨ ∃ packetId bytes, .createPacketReceived packetId bytes ∈ c.inbox) :
      Step c { c.wakeDecided.settled .commandCompleted seq with active := .none }
  | wakeFailed (c : Control) (error : BrainstemError) (inbox' : List BrainstemEvent)
      (deadlineMs nextProbeMs : UInt32) (responseBytes : UInt8) (oiStarted allow : Bool)
      (hactive : c.active = .waitForCreate deadlineMs nextProbeMs responseBytes oiStarted allow)
      (h : .error error ∈ c.inbox) (hrest : inbox' ⊆ c.inbox) :
      Step c { c with
        inbox := inbox', log := .wakeFailed error :: .wakeDrained true :: c.log }
  | wakeTimedOut (c : Control) : Step c (c.observe .wakeTimedOut)

/-- The control skeleton of a run moves by such steps. -/
abbrev Steps : Control → Control → Prop := Relation.ReflTransGen Step

section Adds

variable {S : Obs → Prop} {c c' c'' : Control}

/-- The trace grew by entries of the kind `S`. -/
def Adds (S : Obs → Prop) (c c' : Control) : Prop :=
  ∃ recent, c'.log = recent ++ c.log ∧ ∀ o ∈ recent, S o

theorem Adds.none (h : c'.log = c.log) : Adds S c c' := ⟨[], h, by simp⟩

theorem Adds.one {o : Obs} (h : c'.log = o :: c.log) (ho : S o) : Adds S c c' :=
  ⟨[o], h, by simpa using ho⟩

theorem Adds.two {o₁ o₂ : Obs} (h : c'.log = o₁ :: o₂ :: c.log) (h₁ : S o₁) (h₂ : S o₂) :
    Adds S c c' :=
  ⟨[o₁, o₂], h, by simp [h₁, h₂]⟩

theorem Adds.trans (h : Adds S c c') (h' : Adds S c' c'') : Adds S c c'' := by
  obtain ⟨recent, hlog, hall⟩ := h
  obtain ⟨recent', hlog', hall'⟩ := h'
  refine ⟨recent' ++ recent, by rw [hlog', hlog, List.append_assoc], fun o ho => ?_⟩
  rcases List.mem_append.mp ho with ho | ho
  · exact hall' o ho
  · exact hall o ho

theorem Adds.suffix (h : Adds S c c') : c.log <:+ c'.log := by
  obtain ⟨recent, hlog, -⟩ := h
  exact ⟨recent, hlog.symm⟩

theorem Adds.settled (h : Adds S c c') (kind : PublicEventKind) (seq : UInt32)
    (hS : ∀ id, S (.event seq kind id 0 0)) : Adds S c (c'.settled kind seq) := by
  refine h.trans ?_
  unfold Control.settled
  cases c'.activeCommandId with
  | none => exact .none rfl
  | some id => exact .one rfl (hS id)

theorem settled_suffix (c : Control) (kind : PublicEventKind) (seq : UInt32) :
    c.log <:+ (c.settled kind seq).log :=
  (Adds.settled (.none rfl) kind seq fun _ => trivial : Adds (fun _ => True) c _).suffix

theorem Adds.interrupted (h : Adds S c c') (seq : UInt32)
    (hS : ∀ id, S (.event seq .commandInterrupted id 0 0)) (hline : S (.powerToggle false)) :
    Adds S c (c'.interrupted seq) := by
  refine Adds.settled (h.trans ?_) _ _ hS
  by_cases hpulse : c'.active.isPowerPulse
  · exact .one (by rw [if_pos hpulse]) hline
  · exact .none (by rw [if_neg hpulse])

theorem Adds.traced (h : Adds S c c') (commandId : UInt32) (hrevived : ∀ id, S (.revived id))
    (hrequeued : ∀ id, S (.requeued id)) : Adds S c (c'.traced commandId) := by
  refine h.trans ?_
  rcases hheld : c'.dispatching with _ | ⟨id, _ | _⟩
  · exact .one (by simp only [Control.traced, hheld]) (hrequeued commandId)
  · exact .none (by simp only [Control.traced, hheld])
  · exact .one (by simp only [Control.traced, hheld]) (hrevived id)

theorem Adds.forgotten (h : Adds S c c') {trace : UInt32 → Obs} (htrace : ∀ id, S (trace id)) :
    Adds S c (c'.forgotten trace) := by
  refine h.trans ?_
  rcases hheld : c'.dispatching with _ | ⟨id, _ | _⟩
  · exact .none (by simp only [Control.forgotten, hheld])
  · exact .one (by simp only [Control.forgotten, hheld]) (htrace id)
  · exact .none (by simp only [Control.forgotten, hheld])

theorem Adds.pushed (h : Adds S c c') (front : Bool) (queued : QueuedCommand)
    (hfull : S (.queueFull queued.commandId)) : Adds S c (c'.pushed front queued) := by
  refine h.trans ?_
  by_cases hroom : c'.isFull
  · exact .one (by simp only [Control.pushed, if_pos hroom]) hfull
  · exact .none (by simp only [Control.pushed, if_neg hroom])

theorem Adds.noted (h : Adds S c c') {recent : List Obs} (hall : ∀ o ∈ recent, S o) :
    Adds S c (c'.noted recent) :=
  h.trans ⟨recent, rfl, hall⟩

theorem Adds.latched {kind : SafetyEventKind} {seq : UInt32} {between : List Obs}
    (htripped : ∀ seq code, S (.event seq .safetyTripped code 0 0)) (hlatch : S (.latch (some kind)))
    (hbetween : ∀ o ∈ between, S o) :
    Adds S c (((c.tripped kind seq).noted between).latchedAs (some kind)) :=
  ((Adds.one rfl (htripped seq kind.code)).noted hbetween).trans (.one rfl hlatch)

theorem Adds.unlatched {kind : SafetyEventKind} {cause : LiftCause} {seq : UInt32}
    {between : List Obs} (hover : ∀ seq code, S (.event seq .safetyCleared code 0 0))
    (hlift : S (.lifting cause)) (hlatch : S (.latch Option.none)) (hbetween : ∀ o ∈ between, S o) :
    Adds S c ((((c.hazardOver kind seq).noted between).observe (.lifting cause)).latchedAs
      Option.none) :=
  ((Adds.one rfl (hover seq kind.code)).noted hbetween).trans (.two rfl hlatch hlift)

end Adds

theorem Step.grows {c c' : Control} (h : Step c c') : c.log <:+ c'.log := by
  have hany : Adds (fun _ => True) c c' := by
    cases h with
    | fail => exact .settled (.two rfl trivial trivial) _ _ fun _ => trivial
    | queue front queued =>
      have htraced : Adds (fun _ => True) c (c.traced queued.commandId) :=
        .traced (.none rfl) _ (fun _ => trivial) fun _ => trivial
      exact htraced.pushed front queued trivial
    | refuse commandId =>
      have htraced : Adds (fun _ => True) c (c.traced commandId) :=
        .traced (.none rfl) _ (fun _ => trivial) fun _ => trivial
      exact htraced.trans (.one rfl trivial)
    | drop => exact .forgotten (.none rfl) fun _ => trivial
    | settle => exact .settled (.none rfl) _ _ fun _ => trivial
    | interrupt => exact .interrupted (.none rfl) _ (fun _ => trivial) trivial
    | latchHalt kind seq _ between =>
      exact .interrupted (.latched (fun _ _ => trivial) trivial fun _ _ => trivial) _
        (fun _ => trivial) trivial
    | latch => exact .latched (fun _ _ => trivial) trivial fun _ _ => trivial
    | unlatch => exact .unlatched (fun _ _ => trivial) trivial trivial fun _ _ => trivial
    | tripHalt => exact .interrupted (.one rfl trivial) _ (fun _ => trivial) trivial
    | withdraw =>
      have hpushed : Adds (fun _ => True) c (c.pushed true withdrawal) :=
        .pushed (.none rfl) _ _ trivial
      exact hpushed.trans (.none rfl)
    | answered => exact .settled (.two rfl trivial trivial) _ _ fun _ => trivial
    | begin | pulse | wakeFailed => exact .two rfl trivial trivial
    | take | admission | endExecuting | setMode | halt | depart | unlatchIdle | endWithdrawal
    | setCareful | setPending | settleWake | rewait | beginWait | keepWaiting | beginSettle => exact .none rfl
    | _ => exact .one rfl trivial
  exact hany.suffix

theorem Steps.grows {c c' : Control} (h : Steps c c') : c.log <:+ c'.log :=
  @walk_grows _ _ log _ (fun _ _ => Step.grows) _ _ h

theorem Steps.preserves {law : Obs → List Obs → Prop} {inv : Control → Prop}
    (hstep : ∀ c c', Step c c' → Annals law c'.log → inv c → inv c') {c c' : Control}
    (h : Steps c c') (hlaw : Annals law c'.log) (hinv : inv c) : inv c' :=
  @walk_preserves _ _ log (Annals law) inv Step (fun _ _ => Step.grows)
    (fun _ _ hsuffix hall => hall.of_suffix hsuffix) hstep c c' h hlaw hinv

/-- No timed motion is active whose deadline the clock has reached. -/
def OnTime (c : Control) : Prop :=
  ∀ stopAtMs, c.active = .driving stopAtMs ∨ c.active = .dockDeparture stopAtMs →
    timeReached c.nowMs stopAtMs = false

theorem OnTime.of_still {c : Control} (h : c.active.isMotion = false) : c.OnTime := by
  rintro stopAtMs (hactive | hactive) <;> rw [hactive] at h <;> cases h

/-- What holds of every skeleton that comes from a start-up. -/
structure Sane (c : Control) : Prop where
  careful : c.carefulModeUntilMs ≠ none → c.dockDeparturePending = false
  active : c.active ≠ .none → c.mode = .running
  executing : c.executing ≠ none → c.mode = .running

theorem Sane.step {c c' : Control} (h : Step c c') (hsane : Sane c) : Sane c' := by
  cases h with
  | fail => exact ⟨hsane.careful, fun h => absurd rfl h, hsane.executing⟩
  | begin _ _ _ _ _ _ _ hmode => exact ⟨hsane.careful, hsane.active, fun _ => hmode⟩
  | admission _ hexecuting =>
    exact ⟨hsane.careful, hsane.active, fun _ => hsane.executing (by simp [hexecuting])⟩
  | endExecuting => exact ⟨hsane.careful, hsane.active, fun h => absurd rfl h⟩
  | setMode mode hmode =>
    rcases hmode with rfl | ⟨hactive, hexecuting⟩
    · exact ⟨hsane.careful, fun _ => rfl, fun _ => rfl⟩
    · exact ⟨hsane.careful, fun h => absurd hactive h, fun h => absurd hexecuting h⟩
  | halt | latchHalt | tripHalt | answered =>
    exact ⟨hsane.careful, fun h => absurd rfl h, hsane.executing⟩
  | drive _ _ _ hexecuting =>
    exact ⟨hsane.careful, fun _ => hsane.executing (by simp [hexecuting]), hsane.executing⟩
  | renew _ hactive _ =>
    refine ⟨hsane.careful, fun _ => hsane.active fun hnone => ?_, hsane.executing⟩
    rw [hnone] at hactive
    cases hactive
  | depart _ _ _ _ hmode => exact ⟨fun _ => rfl, fun _ => hmode, hsane.executing⟩
  | setCareful _ h => exact ⟨fun hcareful => (h hcareful).1, hsane.active, hsane.executing⟩
  | setPending pending h =>
    refine ⟨fun hcareful => ?_, hsane.active, hsane.executing⟩
    cases pending with
    | false => rfl
    | true => exact absurd (h rfl).1 hcareful
  | pulse _ _ _ _ hmode =>
    exact ⟨hsane.careful, fun _ => hmode.elim hsane.executing hsane.active, hsane.executing⟩
  | settleWake _ _ _ hactive =>
    exact ⟨hsane.careful, fun _ => hsane.active (by simp [hactive]), hsane.executing⟩
  | rewait _ _ _ hactive =>
    exact ⟨hsane.careful, fun _ => hsane.active (by simp [hactive]), hsane.executing⟩
  | keepWaiting _ _ _ _ _ _ _ hactive =>
    exact ⟨hsane.careful, fun _ => hsane.active (by simp [hactive]), hsane.executing⟩
  | beginWait _ _ _ hexecuting =>
    exact ⟨hsane.careful, fun _ => hsane.executing hexecuting, hsane.executing⟩
  | beginSettle _ hexecuting =>
    exact ⟨hsane.careful, fun _ => hsane.executing hexecuting, hsane.executing⟩
  | _ => exact ⟨hsane.careful, hsane.active, hsane.executing⟩

theorem Sane.steps {c c' : Control} (h : Steps c c') (hsane : Sane c) : Sane c' := by
  induction h with
  | refl => exact hsane
  | tail _ hstep ih => exact ih.step hstep

end Control

end Netherwick.Brainstem
