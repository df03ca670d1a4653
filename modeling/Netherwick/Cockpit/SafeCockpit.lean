import Netherwick.Cockpit.ContractLimits
import Netherwick.Cockpit.EventDelivery

/-! # Pulsed motion

`SafeCockpit::pulse_motion` looks at the status, beats the heart, sends one velocity and polls for
safety events. The client behind it may answer in any way. A pulse that fails after its velocity was
accepted should have stopped the robot; it has only where the poll itself worked. -/

namespace Netherwick.Cockpit

open Netherwick.Lib

def SafetyLatchKind.fromEventCode (code : UInt32) : Option SafetyLatchKind :=
  if code = 1 then some .bump
  else if code = 2 then some .cliff
  else if code = 3 then some .wheelDrop
  else if code = 5 then some .heartbeat
  else if code = 6 then some .tilt
  else if code = 7 then some .impact
  else if code = 8 then some .charging
  else none

def SafeStopReason.fromEvent (event : CockpitEvent) : Option SafeStopReason :=
  match event.kind with
  | .safetyTripped => some (.safetyTripped (SafetyLatchKind.fromEventCode event.a))
  | .heartbeatExpired => some .heartbeatExpired
  | .eStopLatched => some .eStopLatched
  | _ => none

structure AgentPolicy where
  motionTtlMs : UInt32 := 300
  heartbeatTimeoutMs : UInt32 := 900

/-- The fields of a status summary that a pulse reads. -/
structure SafetySummary where
  estopLatched : Option Bool
  safetyTripped : Option Bool
  safetyLatchKind : Option SafetyLatchKind
  eventNextSeq : Option UInt32

/-- Any implementation of the `Cockpit` trait, by the methods that a pulse uses, and the reading of
its status line. -/
structure Client (C : Type) where
  getStatus : C → Except CockpitError CockpitStatus × C
  getEventsSince : UInt32 → C → Except CockpitError EventBatch × C
  getCapabilities : C → Except CockpitError CockpitCapabilities × C
  managesMotionHeartbeat : C → Bool
  heartbeatStop : UInt32 → C → Except CockpitError Unit × C
  cmdVel : Int16 → Int16 → UInt32 → C → Except CockpitError Unit × C
  stop : C → Except CockpitError Unit × C
  summary : CockpitStatus → SafetySummary

inductive ClientCall
  | status | events | capabilities | heartbeatStop
  | cmdVel (accepted : Bool)
  | stop
  deriving DecidableEq, Repr

/-- The calls so far are kept beside the client, newest first. -/
structure SafeCockpit (C : Type) where
  client : C
  cursor : EventCursor
  policy : AgentPolicy
  contract : Option CockpitContract
  calls : List ClientCall := []

abbrev Piloting (C α : Type) : Type := Prog (SafeCockpit C) Abort α

def knownEvent (event : String) : Bool :=
  match CockpitEventKind.ofText event with
  | .unknown _ => false
  | _ => true

def CockpitContract.validateEventVocabulary (contract : CockpitContract) : Except Abort Unit :=
  let unknown := contract.capabilities.events.filter fun event => !knownEvent event
  if unknown.isEmpty then .ok ()
  else .error (.failed (.policy ("unknown cockpit events: " ++ ",".intercalate unknown)))

namespace SafeCockpit

variable {C α : Type} (client : Client C) (overflowChecks : Bool)

def ask (method : C → Except CockpitError α × C) (call : Except CockpitError α → ClientCall) :
    Piloting C α := fun s =>
  let answer := method s.client
  (answer.1.mapError .failed, { s with client := answer.2, calls := call answer.1 :: s.calls })

def refreshStatus : Piloting C SafetySummary := do
  let status ← ask client.getStatus fun _ => .status
  let summary := client.summary status
  Prog.act fun s =>
    match summary.eventNextSeq with
    | some eventNextSeq =>
      if s.cursor.nextSeq = 0 then { s with cursor := .fromEventNextSeq eventNextSeq } else s
    | none => s
  pure summary

def ensureContract : Piloting C CockpitContract := do
  let s ← Prog.get
  match s.contract with
  | some contract => pure contract
  | none =>
    let capabilities ← ask client.getCapabilities fun _ => .capabilities
    let contract : CockpitContract := { capabilities }
    lift contract.validateEventVocabulary
    Prog.act fun s => { s with contract := some contract }
    pure contract

/-- `EventCursor::poll` on the client. -/
def poll : Piloting C EventBatch := fun s =>
  let answer := client.getEventsSince s.cursor.nextSeq s.client
  let (batch, cursor) := s.cursor.poll fun _ => answer.1
  (batch.mapError .failed, { s with client := answer.2, cursor, calls := .events :: s.calls })

def pollSafetyEvents : Piloting C (List SafeStopReason) := do
  let batch ← poll client
  pure (batch.events.filterMap SafeStopReason.fromEvent)

/-- Why a status forbids motion. -/
def latched (summary : SafetySummary) : List SafeStopReason :=
  (if summary.estopLatched = some true then [.eStopLatched] else [])
    ++ if summary.safetyTripped = some true then [.safetyTripped summary.safetyLatchKind] else []

/-- The heartbeat that bounds the motion, where the policy has one and the client does not beat. -/
def beat (contract : CockpitContract) (heartbeatTimeoutMs : UInt32) : Piloting C Unit := do
  let heartbeat ←
    lift (contract.clampMotionRequest overflowChecks (.heartbeatStop heartbeatTimeoutMs))
  lift (contract.validateRequest overflowChecks heartbeat)
  match heartbeat with
  | .heartbeatStop timeoutMs => ask (client.heartbeatStop timeoutMs) fun _ => .heartbeatStop
  | _ => pure ()

/-- The velocity itself. -/
def send : CockpitRequest → Piloting C Unit
  | .cmdVel linearMmS angularMradS ttlMs =>
    ask (client.cmdVel linearMmS angularMradS ttlMs) fun answer => .cmdVel answer.isOk
  | _ => Prog.fail .panicked

/-- A pulse up to its velocity. -/
def command (linearMmS angularMradS : Int16) : Piloting C Unit := do
  let summary ← refreshStatus client
  match latched summary with
  | reason :: reasons => failWith (.motionStopped (reason :: reasons))
  | [] =>
    let s ← Prog.get
    let heartbeatTimeoutMs := s.policy.heartbeatTimeoutMs
    let motionTtlMs := s.policy.motionTtlMs
    let beats := decide (0 < heartbeatTimeoutMs) && !client.managesMotionHeartbeat s.client
    let contract ← ensureContract client
    if contract.supports "cmd_vel" = false then
      failWith (.policy "refusing motion because cmd_vel is unsupported")
    else if beats && !contract.supports "heartbeat_stop" then
      failWith (.policy "heartbeat policy requires heartbeat_stop capability")
    else
      let request ← lift (contract.clampMotionRequest overflowChecks
        (.cmdVel linearMmS angularMradS motionTtlMs))
      lift (contract.validateRequest overflowChecks request)
      Prog.when (beats = true) (beat client overflowChecks contract heartbeatTimeoutMs)
      send client request

/-- What follows an accepted velocity. -/
def watch : Piloting C Unit := do
  match ← pollSafetyEvents client with
  | [] => pure ()
  | reason :: reasons => do
      let _ ← attempt (ask client.stop fun _ => .stop)
      failWith (.motionStopped (reason :: reasons))

def pulseMotion (linearMmS angularMradS : Int16) : Piloting C Unit := do
  command client overflowChecks linearMmS angularMradS
  watch client

section Calls

variable {client} {overflowChecks} {linearMmS angularMradS : Int16} {s s₁ s' : SafeCockpit C}

/-- No velocity was accepted in between. -/
def Quiet (s s' : SafeCockpit C) : Prop :=
  ∃ recent, s'.calls = recent ++ s.calls ∧ ClientCall.cmdVel true ∉ recent

theorem Quiet.refl (s : SafeCockpit C) : Quiet s s := ⟨[], by simp⟩

theorem Quiet.of_calls (h : s'.calls = s.calls) : Quiet s s' := ⟨[], by simp [h]⟩

theorem Quiet.trans {a b c : SafeCockpit C} (hab : Quiet a b) (hbc : Quiet b c) : Quiet a c := by
  obtain ⟨first, hfirst, hquiet⟩ := hab
  obtain ⟨second, hsecond, hquiet'⟩ := hbc
  exact ⟨second ++ first, by simp [hsecond, hfirst], by simp [hquiet, hquiet']⟩

theorem quiet_bind {β : Type} {m : Piloting C α} {k : α → Piloting C β}
    (hm : Prog.Stays Quiet m) (hk : ∀ a, Prog.Stays Quiet (k a)) : Prog.Stays Quiet (m >>= k) :=
  Prog.Stays.bind (fun _ _ _ => Quiet.trans) hm hk

theorem quiet_ask {method : C → Except CockpitError α × C} {call : Except CockpitError α → ClientCall}
    (h : ∀ answer, call answer ≠ .cmdVel true) : Prog.Stays Quiet (ask method call) :=
  fun s => ⟨[call (method s.client).1], rfl, by simpa using fun heq => h _ heq.symm⟩

theorem quiet_lift (result : Except Abort α) : Prog.Stays Quiet (lift result : Piloting C α) :=
  fun s => .refl s

theorem quiet_pure (a : α) : Prog.Stays Quiet (pure a : Piloting C α) := fun s => .refl s

theorem quiet_get : Prog.Stays Quiet (Prog.get : Piloting C (SafeCockpit C)) := fun s => .refl s

theorem refreshStatus_quiet : Prog.Stays Quiet (refreshStatus client) := by
  refine quiet_bind (quiet_ask (by simp)) fun status => ?_
  refine quiet_bind (Prog.Stays.act fun s => .of_calls ?_) fun _ => quiet_pure _
  split
  · split <;> rfl
  · rfl

theorem ensureContract_quiet : Prog.Stays Quiet (ensureContract client) := by
  refine quiet_bind quiet_get fun s => ?_
  cases s.contract with
  | some contract => exact quiet_pure contract
  | none =>
    refine quiet_bind (quiet_ask (by simp)) fun capabilities => ?_
    refine quiet_bind (quiet_lift _) fun _ => ?_
    exact quiet_bind (Prog.Stays.act fun s => .of_calls rfl) fun _ => quiet_pure _

theorem beat_quiet (contract : CockpitContract) (heartbeatTimeoutMs : UInt32) :
    Prog.Stays Quiet (beat client overflowChecks contract heartbeatTimeoutMs) := by
  refine quiet_bind (quiet_lift _) fun heartbeat => ?_
  refine quiet_bind (quiet_lift _) fun _ => ?_
  split
  · exact quiet_ask (by simp)
  · exact quiet_pure ()

/-- How far a pulse has come when its velocity is accepted, or when it gives up before. -/
def Commanded (s : SafeCockpit C) (result : Except Abort Unit × SafeCockpit C) : Prop :=
  (result.1 = .ok () → ∃ s', Quiet s s' ∧ result.2.calls = .cmdVel true :: s'.calls) ∧
    (result.1 ≠ .ok () → Quiet s result.2)

theorem Commanded.quiet {result : Except Abort Unit × SafeCockpit C} (hquiet : Quiet s result.2)
    (hfailed : result.1 ≠ .ok ()) : Commanded s result :=
  ⟨fun hok => absurd hok hfailed, fun _ => hquiet⟩

theorem send_commanded (request : CockpitRequest) (s : SafeCockpit C) :
    Commanded s (send client request s) := by
  have hpanics : Commanded s ((Prog.fail .panicked : Piloting C Unit) s) :=
    .quiet (.refl s) (by simp)
  cases request with
  | cmdVel linearMmS angularMradS ttlMs =>
    simp only [Commanded, send, ask]
    cases hanswer : (client.cmdVel linearMmS angularMradS ttlMs s.client).1 with
    | ok _ => exact ⟨fun _ => ⟨s, .refl s, rfl⟩, fun h => absurd rfl h⟩
    | error error =>
      refine ⟨?_, fun _ => ⟨[.cmdVel false], rfl, by simp⟩⟩
      intro hok
      cases hok
  | _ => exact hpanics

theorem Commanded.after {q : SafeCockpit C} {result : Except Abort Unit × SafeCockpit C}
    (hquiet : Quiet s q) (h : Commanded q result) : Commanded s result := by
  refine ⟨fun hok => ?_, fun hfailed => hquiet.trans (h.2 hfailed)⟩
  obtain ⟨s', hs', hcalls⟩ := h.1 hok
  exact ⟨s', hquiet.trans hs', hcalls⟩

theorem commanded_bind {m : Piloting C α} {k : α → Piloting C Unit} (hm : Prog.Stays Quiet m)
    (hk : ∀ a q, Commanded q (k a q)) (s : SafeCockpit C) : Commanded s ((m >>= k) s) := by
  have hquiet := hm s
  rw [Prog.bind_apply]
  rcases hresult : m s with ⟨abort | a, q⟩
  · rw [hresult] at hquiet
    exact .quiet hquiet (by simp)
  · rw [hresult] at hquiet
    exact .after hquiet (hk a q)

theorem commanded_fail (error : CockpitError) (s : SafeCockpit C) :
    Commanded s ((failWith error : Piloting C Unit) s) :=
  .quiet (.refl s) (by simp [failWith])

theorem commanded_ite {c : Prop} [Decidable c] {m n : Piloting C Unit} (hm : Commanded s (m s))
    (hn : Commanded s (n s)) : Commanded s ((if c then m else n) s) := by
  by_cases hc : c
  · rwa [if_pos hc]
  · rwa [if_neg hc]

theorem command_commanded (s : SafeCockpit C) :
    Commanded s (command client overflowChecks linearMmS angularMradS s) := by
  refine commanded_bind refreshStatus_quiet (fun summary q => ?_) s
  cases latched summary with
  | cons reason reasons => exact commanded_fail _ q
  | nil =>
    refine commanded_bind quiet_get (fun s₀ q => ?_) q
    refine commanded_bind ensureContract_quiet (fun contract q => ?_) q
    refine commanded_ite (commanded_fail _ q) (commanded_ite (commanded_fail _ q) ?_)
    refine commanded_bind (quiet_lift _) (fun request q => ?_) q
    refine commanded_bind (quiet_lift _) (fun _ q => ?_) q
    refine commanded_bind (Prog.Stays.when Quiet.refl (beat_quiet _ _)) (fun _ q => ?_) q
    exact send_commanded request q

end Calls

section Law

variable {linearMmS angularMradS : Int16} {s s₁ s' : SafeCockpit C}

/-- Every accepted velocity is followed by a stop. -/
def StopsAfter (calls : List ClientCall) : Prop :=
  ∀ later earlier, calls = later ++ .cmdVel true :: earlier → .stop ∈ later

/-- A pulse that fails after its velocity was accepted has asked for a stop since. -/
def FailsStopped (s : SafeCockpit C) (linearMmS angularMradS : Int16) : Prop :=
  ∀ abort s', pulseMotion client overflowChecks linearMmS angularMradS s = (.error abort, s') →
    ∃ recent, s'.calls = recent ++ s.calls ∧ StopsAfter recent

/-- The client answers the poll with events, and has missed none. -/
def PollsThrough (s : SafeCockpit C) : Prop :=
  ∃ batch, (client.getEventsSince s.cursor.nextSeq s.client).1 = .ok batch ∧
    batch.droppedBeforeSeq = 0

variable {client} {overflowChecks}

theorem stopsAfter_of_quiet {calls : List ClientCall} (h : ClientCall.cmdVel true ∉ calls) :
    StopsAfter calls := by
  rintro later earlier rfl
  exact absurd (by simp) h

theorem stopsAfter_of_stop (calls : List ClientCall) : StopsAfter (.stop :: calls) := by
  intro later earlier heq
  cases later with
  | nil => cases heq
  | cons call later =>
    obtain ⟨rfl, -⟩ := List.cons.inj heq
    exact List.mem_cons_self

theorem poll_calls (client : Client C) (s : SafeCockpit C) : (poll client s).2.calls = .events :: s.calls := rfl

theorem poll_of_polls (h : PollsThrough client s) : ∃ batch q, poll client s = (.ok batch, q) := by
  obtain ⟨batch, hbatch, hdropped⟩ := h
  refine ⟨batch, (poll client s).2, Prod.ext ?_ rfl⟩
  simp [poll, EventCursor.poll, EventBatch.ensureNoMissedEvents, hbatch, hdropped, Except.mapError]

theorem poll_of_not_polls (h : ¬ PollsThrough client s) :
    ∃ error q, poll client s = (.error (.failed error), q) := by
  cases hevents : (client.getEventsSince s.cursor.nextSeq s.client).1 with
  | error error =>
    refine ⟨error, (poll client s).2, Prod.ext ?_ rfl⟩
    simp [poll, EventCursor.poll, hevents, Except.mapError]
  | ok batch =>
    have hdropped : batch.droppedBeforeSeq ≠ 0 := fun hzero => h ⟨batch, hevents, hzero⟩
    refine ⟨.missedEvents batch.droppedBeforeSeq, (poll client s).2, Prod.ext ?_ rfl⟩
    simp [poll, EventCursor.poll, EventBatch.ensureNoMissedEvents, hevents, hdropped,
      Except.mapError]

theorem watch_of_not_polls (h : ¬ PollsThrough client s) :
    ∃ error q, watch client s = (.error (.failed error), q) ∧ q.calls = .events :: s.calls := by
  obtain ⟨error, q, hpoll⟩ := poll_of_not_polls h
  have hcalls := poll_calls client s
  rw [hpoll] at hcalls
  refine ⟨error, q, ?_, hcalls⟩
  unfold watch pollSafetyEvents
  rw [Prog.bind_error (Prog.bind_error hpoll)]

theorem ask_calls {method : C → Except CockpitError α × C} {call : Except CockpitError α → ClientCall}
    (s : SafeCockpit C) : (ask method call s).2.calls = call (method s.client).1 :: s.calls := rfl

theorem bind_failWith_snd {σ β : Type} (m : Prog σ Abort α) (error : CockpitError) (s : σ) :
    ((m >>= fun _ => (failWith error : Prog σ Abort β)) s).2 = (m s).2 := by
  rw [Prog.bind_apply]
  rcases m s with ⟨abort | a, q⟩ <;> rfl

theorem watch_of_polls (h : PollsThrough client s) :
    (watch client s).1 = .ok () ∨
      ∃ before, (watch client s).2.calls = .stop :: before ++ s.calls := by
  obtain ⟨batch, q, hpoll⟩ := poll_of_polls h
  have hcalls := poll_calls client s
  rw [hpoll] at hcalls
  have hstops : pollSafetyEvents client s =
      (.ok (batch.events.filterMap SafeStopReason.fromEvent), q) := Prog.bind_ok hpoll
  unfold watch
  rw [Prog.bind_ok hstops]
  cases batch.events.filterMap SafeStopReason.fromEvent with
  | nil => exact .inl rfl
  | cons reason reasons =>
    refine .inr ⟨[.events], ?_⟩
    dsimp only
    rw [bind_failWith_snd, attempt_snd, ask_calls, hcalls]
    rfl

end Law

/-- A failed pulse has stopped the robot exactly where the client lets the poll through that follows
an accepted velocity. -/
theorem failsStopped_iff (client : Client C) (overflowChecks : Bool) (s : SafeCockpit C)
    (linearMmS angularMradS : Int16) :
    FailsStopped client overflowChecks s linearMmS angularMradS ↔
      ∀ s₁, command client overflowChecks linearMmS angularMradS s = (.ok (), s₁) →
        PollsThrough client s₁ := by
  have hcommanded : Commanded s (command client overflowChecks linearMmS angularMradS s) :=
    command_commanded s
  constructor
  · intro hstopped s₁ hcommand
    by_contra hpolls
    rw [hcommand] at hcommanded
    obtain ⟨before, ⟨recent, hrecent, -⟩, hcalls⟩ := hcommanded.1 rfl
    obtain ⟨error, q, hwatch, hq⟩ := watch_of_not_polls hpolls
    have hpulse : pulseMotion client overflowChecks linearMmS angularMradS s =
        (.error (.failed error), q) := by
      unfold pulseMotion
      rw [Prog.bind_ok hcommand, hwatch]
    obtain ⟨sent, hsent, hstops⟩ := hstopped _ _ hpulse
    have hlist : sent = [ClientCall.events] ++ ClientCall.cmdVel true :: recent := by
      apply (List.append_left_inj s.calls).mp
      rw [← hsent, hq, hcalls, hrecent]
      rfl
    exact absurd (hstops _ _ hlist) (by decide)
  · intro hpolls abort s' hpulse
    rcases hcommand : command client overflowChecks linearMmS angularMradS s with ⟨failed | _, s₁⟩
    · rw [hcommand] at hcommanded
      unfold pulseMotion at hpulse
      rw [Prog.bind_error hcommand] at hpulse
      cases hpulse
      obtain ⟨recent, hrecent, hquiet⟩ := hcommanded.2 (by simp)
      exact ⟨recent, hrecent, stopsAfter_of_quiet hquiet⟩
    · rw [hcommand] at hcommanded
      obtain ⟨before, ⟨recent, hrecent, -⟩, hcalls⟩ := hcommanded.1 rfl
      unfold pulseMotion at hpulse
      rw [Prog.bind_ok hcommand] at hpulse
      obtain hok | ⟨between, hstop⟩ := watch_of_polls (hpolls s₁ hcommand)
      · rw [hpulse] at hok
        cases hok
      · rw [hpulse] at hstop
        refine ⟨.stop :: between ++ .cmdVel true :: recent, ?_, ?_⟩
        · rw [hstop, hcalls, hrecent]
          simp
        · rw [List.cons_append]
          exact stopsAfter_of_stop _

/-- A client that takes every command and has forgotten an event by the first poll. -/
def forgetful : Client Unit where
  getStatus _ := (.ok { raw := "" }, ())
  getEventsSince sinceSeq _ :=
    (.ok { sinceSeq, oldestSeq := 9, nextSeq := 12, droppedBeforeSeq := 9, events := [] }, ())
  getCapabilities _ := (.ok slowContract.capabilities, ())
  managesMotionHeartbeat _ := true
  heartbeatStop _ _ := (.ok (), ())
  cmdVel _ _ _ _ := (.ok (), ())
  stop _ := (.ok (), ())
  summary _ := { estopLatched := none, safetyTripped := none, safetyLatchKind := none
                 eventNextSeq := none }

def fresh : SafeCockpit Unit where
  client := ()
  cursor := {}
  policy := {}
  contract := none

theorem gap_leaves_moving : ¬ FailsStopped forgetful true fresh 80 0 := by
  intro hstopped
  have hpulse : (pulseMotion forgetful true 80 0 fresh).1.isOk = false ∧
      (pulseMotion forgetful true 80 0 fresh).2.calls =
        [ClientCall.events] ++
          ClientCall.cmdVel true :: [ClientCall.capabilities, ClientCall.status] := by
    decide +kernel
  rcases hresult : pulseMotion forgetful true 80 0 fresh with ⟨abort | _, q⟩
  · obtain ⟨recent, hrecent, hstops⟩ := hstopped _ _ hresult
    rw [hresult] at hpulse
    have hlist : recent = [ClientCall.events] ++
        ClientCall.cmdVel true :: [ClientCall.capabilities, ClientCall.status] := by
      rw [← hpulse.2, hrecent]
      exact (List.append_nil recent).symm
    exact absurd (hstops _ _ hlist) (by decide)
  · rw [hresult] at hpulse
    cases hpulse.1

end SafeCockpit

end Netherwick.Cockpit
