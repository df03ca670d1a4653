import Netherwick.Lib.Run
import Netherwick.Reign.Server

/-! # The hardware gate

Which moving commands may enter the queue of a hardware cockpit, and when the server admits no
others: the gate is read once, before the queue is taken, and only for the drive commands. -/

namespace Netherwick.Reign

open Netherwick.Lib

structure IntensityWithin (bound value : Float32) : Prop where
  finite : value.isFinite = true
  le : ¬ bound < value
  nonneg : ¬ value < 0

/-- A finite axis that does not pass the bound on either side. -/
structure AxisWithin (bound value : Float32) : Prop where
  finite : value.isFinite = true
  le : ¬ bound < value
  ge : ¬ value < -bound

/-- The intensities of a command, and of the action where the command names none. -/
def WithinLimits : ReignCommand → Prop
  | .go intensity _ | .reverse intensity _ => IntensityWithin hardwareMaxForwardIntensity intensity
  | .drive forward turn _ =>
    AxisWithin hardwareMaxForwardIntensity forward ∧ AxisWithin hardwareMaxTurnIntensity turn
  | .turn _ intensity _ => IntensityWithin hardwareMaxTurnIntensity intensity
  | command =>
    AxisWithin hardwareMaxForwardIntensity command.motor.forward
      ∧ AxisWithin hardwareMaxTurnIntensity command.motor.turn

/-- What the limits themselves satisfy. -/
structure LimitsWithin : Prop where
  zero : IntensityWithin 1 0
  one : IntensityWithin 1 1
  minusOne : (-1 : Float32).isFinite = true
  forward : IntensityWithin hardwareMaxForwardIntensity hardwareMaxForwardIntensity
  turn : IntensityWithin hardwareMaxTurnIntensity hardwareMaxTurnIntensity
  reverseAxis : AxisWithin hardwareMaxForwardIntensity (-hardwareMaxForwardIntensity)
  forwardAxis : AxisWithin hardwareMaxForwardIntensity hardwareMaxForwardIntensity
  rightAxis : AxisWithin hardwareMaxTurnIntensity (-hardwareMaxTurnIntensity)
  leftAxis : AxisWithin hardwareMaxTurnIntensity hardwareMaxTurnIntensity
  stop : WithinLimits .stop

theorem limitsWithin : LimitsWithin := by
  constructor
  case minusOne => decide +kernel
  all_goals constructor <;> first | decide +kernel | (constructor <;> decide +kernel)

theorem clamp_cases {p : Float32 → Prop} {value low high : Float32} (hlow : p low) (hhigh : p high)
    (hvalue : ¬ value < low → ¬ high < value → p value) : p (clamp value low high) := by
  simp only [clamp]
  by_cases h : value < low
  · simpa only [if_pos h] using hlow
  · by_cases h' : high < value
    · simpa only [if_neg h, if_pos h'] using hhigh
    · simpa only [if_neg h, if_neg h'] using hvalue h h'

theorem finiteIntensity_ok {value intensity : Float32} (h : finiteIntensity value = .ok intensity) :
    IntensityWithin 1 intensity := by
  have hlimits := limitsWithin
  by_cases hfinite : value.isFinite = true
  · simp only [finiteIntensity, hfinite, Bool.not_true, Bool.false_eq_true, if_false,
      Except.ok.injEq] at h
    rw [← h]
    apply clamp_cases hlimits.zero hlimits.one
    · exact fun hlow hhigh => ⟨hfinite, hhigh, hlow⟩
  · simp [finiteIntensity, hfinite] at h

theorem finiteAxis_ok {value axis : Float32} (h : finiteAxis value = .ok axis) :
    axis.isFinite = true := by
  have hlimits := limitsWithin
  by_cases hfinite : value.isFinite = true
  · simp only [finiteAxis, hfinite, Bool.not_true, Bool.false_eq_true, if_false,
      Except.ok.injEq] at h
    rw [← h]
    apply clamp_cases (p := fun axis => axis.isFinite = true) hlimits.minusOne
      hlimits.one.finite
    · exact fun _ _ => hfinite
  · simp [finiteAxis, hfinite] at h

theorem IntensityWithin.atMost {bound limit intensity : Float32} (h : IntensityWithin bound intensity)
    (hlimit : IntensityWithin limit limit) : IntensityWithin limit (atMost intensity limit) := by
  simp only [Reign.atMost]
  split
  · exact hlimit
  · split
    · exact hlimit
    · exact ⟨h.finite, ‹_›, h.nonneg⟩

theorem AxisWithin.clamp {limit axis : Float32} (h : axis.isFinite = true)
    (hlow : AxisWithin limit (-limit)) (hhigh : AxisWithin limit limit) :
    AxisWithin limit (clamp axis (-limit) limit) :=
  clamp_cases hlow hhigh fun hlow hhigh => ⟨h, hhigh, hlow⟩

theorem sanitizeHardwareCommand_ok {command sanitized : ReignCommand}
    (h : sanitizeHardwareCommand command = .ok sanitized) : WithinLimits sanitized := by
  have hlimits := limitsWithin
  cases command with
  | go intensity durationMs =>
    obtain ⟨finite, hfinite, h⟩ := bind_ok.mp h
    obtain rfl := Except.ok.inj h
    exact (finiteIntensity_ok hfinite).atMost hlimits.forward
  | reverse intensity durationMs =>
    obtain ⟨finite, hfinite, h⟩ := bind_ok.mp h
    obtain rfl := Except.ok.inj h
    exact (finiteIntensity_ok hfinite).atMost hlimits.forward
  | drive forward turn durationMs =>
    obtain ⟨finite, hfinite, h⟩ := bind_ok.mp h
    obtain ⟨axis, haxis, h⟩ := bind_ok.mp h
    obtain rfl := Except.ok.inj h
    exact ⟨.clamp (finiteAxis_ok hfinite) hlimits.reverseAxis hlimits.forwardAxis,
      .clamp (finiteAxis_ok haxis) hlimits.rightAxis hlimits.leftAxis⟩
  | turn direction intensity durationMs =>
    obtain ⟨finite, hfinite, h⟩ := bind_ok.mp h
    obtain rfl := Except.ok.inj h
    exact (finiteIntensity_ok hfinite).atMost hlimits.turn
  | stop =>
    obtain rfl := Except.ok.inj h
    exact hlimits.stop
  | _ => cases h

/-- The body was seen in the last second of the wall clock. -/
structure FreshAt (clock : Nat) (snapshot : WorldSnapshot) : Prop where
  le_clock : snapshot.body.lastUpdateMs ≤ clock
  clock_le : clock ≤ snapshot.body.lastUpdateMs + hardwareBodyStaleMs

structure HazardFree (snapshot : WorldSnapshot) : Prop where
  wheelDrop : snapshot.body.flags.wheelDrop = false
  cliffLeft : snapshot.body.flags.cliffLeft = false
  cliffFrontLeft : snapshot.body.flags.cliffFrontLeft = false
  cliffFrontRight : snapshot.body.flags.cliffFrontRight = false
  cliffRight : snapshot.body.flags.cliffRight = false
  battery : snapshot.body.batteryLevel ≤ hardwareCriticalBattery → snapshot.body.charging = true

theorem hazardFree_of_reason {snapshot : WorldSnapshot}
    (h : hardwareSnapshotBodyBlockReason snapshot = none) : HazardFree snapshot := by
  by_cases hdrop : snapshot.body.flags.wheelDrop = true
  · simp [hardwareSnapshotBodyBlockReason, hdrop] at h
  · by_cases hcliff : (snapshot.body.flags.cliffLeft || snapshot.body.flags.cliffFrontLeft
        || snapshot.body.flags.cliffFrontRight || snapshot.body.flags.cliffRight) = true
    · simp [hardwareSnapshotBodyBlockReason, hdrop, hcliff] at h
    · simp only [hardwareSnapshotBodyBlockReason, hdrop, hcliff, Bool.false_eq_true, if_false,
        ite_eq_right_iff, reduceCtorEq, imp_false, Bool.and_eq_true, decide_eq_true_eq,
        Bool.not_eq_true', not_and, Bool.not_eq_false] at h
      simp only [Bool.or_eq_true, not_or, Bool.not_eq_true] at hcliff hdrop
      obtain ⟨⟨⟨hleft, hfrontLeft⟩, hfrontRight⟩, hright⟩ := hcliff
      exact ⟨hdrop, hleft, hfrontLeft, hfrontRight, hright, h⟩

namespace ReignServerState

/-- The robot may be driven. -/
structure Steady (state : ReignServerState) : Prop where
  armed : state.hardware.armed = true
  seen : ∃ snapshot, state.latestSnapshot = some snapshot ∧ FreshAt state.clock snapshot
    ∧ HazardFree snapshot

/-- What may be asked of a hardware cockpit. -/
structure Allowed (source : ReignSource) (mode : ReignMode) (command : ReignCommand)
    (ttlMs : Nat) : Prop where
  source : source = .webRemote ∨ source = .gamepad
  mode : mode = .direct
  limits : WithinLimits command
  ttl : ttlMs ≤ hardwareTtlMaxMs

def Lawful (state : ReignServerState) (event : ReignEvent) : Prop :=
  ∀ input, (state.step event).queue = state.queue.push input → input.command.movesRobot = true →
    Allowed input.source input.mode input.command input.ttlMs ∧ state.Steady

/-- No prod request is accepted. A moving command that the gate does not cover is itself one that
may be asked, and comes when the robot may be driven. The gate lets a moving command pass only on a
body of the last second. While a moving command is past its check and not in the queue yet, every
step leaves a robot that may be driven. -/
structure Guarded (state : ReignServerState) (event : ReignEvent) : Prop where
  prod : ∀ request call, event = .prod request →
    postReignProd state.latestSnapshot state.clock request ≠ .ok call
  ungated : ∀ index call, event = .available index → state.calls[index]? = some (.started call) →
    hardwareGateAppliesToCommand call.command = false → call.command.movesRobot = true →
    Allowed call.source call.mode call.command call.ttlMs ∧ state.Steady
  fresh : ∀ index call passed snapshot, event = .gate index →
    state.calls[index]? = some (.gated call) →
    passGate (state.hardwareControlStatus call.nowMs) call = .ok passed →
    call.command.movesRobot = true → state.latestSnapshot = some snapshot →
    FreshAt state.clock snapshot
  undisturbed : ∀ input, .ready input ∈ state.calls → input.command.movesRobot = true →
    (state.step event).Steady

@[simp] theorem calls_accept {state : ReignServerState} {outcome : Except ReignApiError ReignCall} :
    (state.accept outcome).calls = state.calls ++ outcome.toOption.toList := by
  cases outcome <;> simp [accept, Except.toOption]

theorem mem_calls_settle {state : ReignServerState} {index : Nat} {call : ReignCall}
    {outcome : Except ReignApiError ReignCall} (h : call ∈ (state.settle index outcome).calls) :
    call ∈ state.calls ∨ outcome = .ok call := by
  cases outcome with
  | ok next =>
    obtain hold | rfl := List.mem_or_eq_of_mem_set h
    · exact .inl hold
    · exact .inr rfl
  | error error => exact .inl (List.mem_of_mem_eraseIdx h)

theorem mem_calls_step {state : ReignServerState} {event : ReignEvent} {call : ReignCall}
    (h : call ∈ (state.step event).calls) :
    call ∈ state.calls
      ∨ (∃ request, event = .request request ∧ startCommand state.clock request = .ok call)
      ∨ (∃ index earlier, event = .available index
          ∧ state.calls[index]? = some (.started earlier)
          ∧ readAvailability (state.hardwareControlStatus earlier.nowMs) earlier = .ok call)
      ∨ (∃ index earlier, event = .gate index ∧ state.calls[index]? = some (.gated earlier)
          ∧ passGate (state.hardwareControlStatus earlier.nowMs) earlier = .ok call)
      ∨ (∃ request, event = .prod request
          ∧ postReignProd state.latestSnapshot state.clock request = .ok call)
      ∨ (event = .disarm ∧ call = .ready (disarmedInput state.clock)) := by
  cases event with
  | request request =>
    simp only [step, calls_accept, List.mem_append] at h
    cases hstart : startCommand state.clock request with
    | error error => simpa [hstart, Except.toOption] using h
    | ok started =>
      obtain hold | hnew := h
      · exact .inl hold
      · obtain rfl : call = started := by simpa [hstart, Except.toOption] using hnew
        exact .inr (.inl ⟨request, rfl, hstart⟩)
  | available index =>
    simp only [step] at h
    split at h
    · obtain hold | hnew := mem_calls_settle h
      · exact .inl hold
      · exact .inr (.inr (.inl ⟨index, _, rfl, ‹_›, hnew⟩))
    · exact .inl h
  | gate index =>
    simp only [step] at h
    split at h
    · obtain hold | hnew := mem_calls_settle h
      · exact .inl hold
      · exact .inr (.inr (.inr (.inl ⟨index, _, rfl, ‹_›, hnew⟩)))
    · exact .inl h
  | push index =>
    simp only [step] at h
    split at h
    · exact .inl (List.mem_of_mem_eraseIdx h)
    · exact .inl h
  | prod request =>
    simp only [step, calls_accept, List.mem_append] at h
    cases hprod : postReignProd state.latestSnapshot state.clock request with
    | error error => simpa [hprod, Except.toOption] using h
    | ok ready =>
      obtain hold | hnew := h
      · exact .inl hold
      · obtain rfl : call = ready := by simpa [hprod, Except.toOption] using hnew
        exact .inr (.inr (.inr (.inr (.inl ⟨request, rfl, hprod⟩))))
  | arm =>
    simp only [step] at h
    split at h <;> exact .inl h
  | disarm => simpa [step] using h
  | observe _ | tick _ | drain _ | clear => exact .inl h

theorem ready_of_push {state : ReignServerState} {event : ReignEvent} {input : ReignInput}
    (h : (state.step event).queue = state.queue.push input) : .ready input ∈ state.calls := by
  have hne := ReignQueue.ne_push state.queue input
  cases event with
  | push index =>
    simp only [step] at h
    split at h
    next ready hready =>
      obtain rfl := ReignQueue.push_injective h
      exact List.mem_of_getElem? hready
    next => exact absurd h hne
  | request request =>
    simp only [step] at h
    cases hstart : startCommand state.clock request <;> simp only [hstart, accept] at h <;>
      exact absurd h hne
  | prod request =>
    simp only [step] at h
    cases hprod : postReignProd state.latestSnapshot state.clock request <;>
      simp only [hprod, accept] at h <;> exact absurd h hne
  | available index =>
    simp only [step] at h
    split at h
    next call _ =>
      cases hread : readAvailability (state.hardwareControlStatus call.nowMs) call <;>
        simp only [hread, settle] at h <;> exact absurd h hne
    next => exact absurd h hne
  | gate index =>
    simp only [step] at h
    split at h
    next call _ =>
      cases hpass : passGate (state.hardwareControlStatus call.nowMs) call <;>
        simp only [hpass, settle] at h <;> exact absurd h hne
    next => exact absurd h hne
  | arm =>
    simp only [step] at h
    split at h <;> exact absurd h hne
  | disarm | observe _ | tick _ => exact absurd h hne
  | drain nowMs => exact absurd h (ReignQueue.drainExpired_ne_push _ _ _)
  | clear => exact absurd h (ReignQueue.clear_ne_push _ _)

theorem ttlMs_input_le {call : CommandCall} (h : call.ttlMs ≤ hardwareTtlMaxMs) :
    call.input.ttlMs ≤ hardwareTtlMaxMs := by
  simp only [ReignInput.ttlMs, CommandCall.input, saturate, clampMs, hardwareTtlMaxMs,
    reignTtlMinMs, reignTtlMaxMs] at h ⊢
  omega

theorem Allowed.input {call : CommandCall}
    (h : Allowed call.source call.mode call.command call.ttlMs) :
    Allowed call.input.source call.input.mode call.input.command call.input.ttlMs where
  source := h.source
  mode := h.mode
  limits := h.limits
  ttl := ttlMs_input_le h.ttl

theorem readAvailability_ok {status : HardwareControlStatus} {call : CommandCall}
    {next : ReignCall} (havailable : status.available = true)
    (h : readAvailability status call = .ok next) :
    (∃ bounded, next = .gated bounded ∧ WithinLimits bounded.command
      ∧ bounded.ttlMs ≤ hardwareTtlMaxMs)
    ∨ (next = .ready call.input ∧ hardwareGateAppliesToCommand call.command = false) := by
  cases happlies : hardwareGateAppliesToCommand call.command with
  | true =>
    simp only [readAvailability, havailable, happlies, Bool.and_self, if_true] at h
    obtain ⟨command, hcommand, h⟩ := bind_ok.mp h
    obtain rfl := Except.ok.inj h
    exact .inl ⟨_, rfl, sanitizeHardwareCommand_ok hcommand, clampMs_le (by decide)⟩
  | false =>
    simp only [readAvailability, happlies, Bool.and_false, Bool.false_eq_true, if_false] at h
    obtain rfl := Except.ok.inj h
    exact .inr ⟨rfl, rfl⟩

theorem hazardFree_of_status {hardware : HardwareControlState} {latest : Option WorldSnapshot}
    {nowMs : Nat} (h : (hardware.status latest nowMs).reason = none) :
    ∃ snapshot, latest = some snapshot ∧ HazardFree snapshot := by
  simp only [HardwareControlState.status] at h
  split at h
  · cases h
  · split at h
    · cases h
    · cases latest with
      | none => cases h
      | some snapshot =>
        refine ⟨snapshot, rfl, hazardFree_of_reason ?_⟩
        simp only [hardwareSnapshotBlockReason] at h
        split at h
        · split at h
          · exact h
          · cases h
        · exact h

theorem passGate_ok {status : HardwareControlStatus} {call : CommandCall} {next : ReignCall}
    (h : passGate status call = .ok next) :
    next = .ready call.input ∧ (call.command = .stop
      ∨ (call.source = .webRemote ∨ call.source = .gamepad) ∧ call.mode = .direct
        ∧ status.armed = true ∧ status.reason = none) := by
  obtain ⟨_, hgate, h⟩ := bind_ok.mp h
  obtain rfl := Except.ok.inj h
  refine ⟨rfl, ?_⟩
  simp only [enforceHardwareCommandGate] at hgate
  by_cases hstop : call.command = .stop
  · exact .inl hstop
  · right
    by_cases hsource : call.source ≠ .webRemote ∧ call.source ≠ .gamepad
    · simp [hstop, hsource] at hgate
    · by_cases hmode : call.mode = .direct
      · by_cases harmed : status.armed = true
        · simp only [hstop, hsource, hmode, harmed, if_false, ne_eq, not_true_eq_false,
            Bool.not_true, Bool.false_eq_true] at hgate
          cases hreason : status.reason with
          | none =>
            refine ⟨?_, hmode, harmed, rfl⟩
            by_cases hweb : call.source = .webRemote
            · exact .inl hweb
            · exact .inr (not_not.mp fun hgamepad => hsource ⟨hweb, hgamepad⟩)
          | some reason => simp [hreason] at hgate
        · simp [hstop, hsource, hmode, harmed] at hgate
      · simp [hstop, hsource, hmode] at hgate

@[simp] theorem steady_settle {state : ReignServerState} {index : Nat}
    {outcome : Except ReignApiError ReignCall} :
    (state.settle index outcome).Steady ↔ state.Steady := by
  constructor <;> intro h <;> cases outcome <;> exact ⟨h.armed, h.seen⟩

/-- The cockpit stays available, what waits for the gate is bounded, and a moving command that waits
for the queue may enter it. -/
structure Invariant (state : ReignServerState) : Prop where
  available : state.hardware.available = true
  gated : ∀ call, .gated call ∈ state.calls →
    WithinLimits call.command ∧ call.ttlMs ≤ hardwareTtlMaxMs
  ready : ∀ input, .ready input ∈ state.calls → input.command.movesRobot = true →
    Allowed input.source input.mode input.command input.ttlMs ∧ state.Steady

variable {state : ReignServerState} {event : ReignEvent}

theorem available_step : (state.step event).hardware.available = state.hardware.available := by
  cases event with
  | request request => cases h : startCommand state.clock request <;> simp [step, accept, h]
  | prod request =>
    cases h : postReignProd state.latestSnapshot state.clock request <;> simp [step, accept, h]
  | available index =>
    simp only [step]
    split
    next call _ =>
      cases h : readAvailability (state.hardwareControlStatus call.nowMs) call <;>
        simp [settle]
    next => rfl
  | gate index =>
    simp only [step]
    split
    next call _ =>
      cases h : passGate (state.hardwareControlStatus call.nowMs) call <;> simp [settle]
    next => rfl
  | push index => simp only [step]; split <;> rfl
  | arm => simp only [step]; split <;> rfl
  | _ => rfl

theorem Invariant.gated_step (h : state.Invariant) {call : CommandCall}
    (hcall : .gated call ∈ (state.step event).calls) :
    WithinLimits call.command ∧ call.ttlMs ≤ hardwareTtlMaxMs := by
  obtain hold | ⟨request, -, hstart⟩ | ⟨index, earlier, -, -, hread⟩ | ⟨index, earlier, -, -, hpass⟩
    | ⟨request, -, hprod⟩ | ⟨-, hdisarm⟩ := mem_calls_step hcall
  · exact h.gated call hold
  · obtain ⟨_, _, hstart⟩ := bind_ok.mp hstart
    cases hstart
  · obtain ⟨bounded, hnext, hlimits, httl⟩ | ⟨hnext, _⟩ := readAvailability_ok h.available hread
    · obtain rfl := ReignCall.gated.inj hnext
      exact ⟨hlimits, httl⟩
    · cases hnext
  · cases (passGate_ok hpass).1
  · simp only [postReignProd] at hprod
    split at hprod
    · cases hprod
    · obtain ⟨_, _, hprod⟩ := bind_ok.mp hprod
      split at hprod
      · cases hprod
      · split at hprod <;> cases hprod
  · cases hdisarm

theorem Invariant.ready_step (h : state.Invariant) (hguarded : state.Guarded event)
    {input : ReignInput} (hinput : .ready input ∈ (state.step event).calls)
    (hmoves : input.command.movesRobot = true) :
    Allowed input.source input.mode input.command input.ttlMs ∧ (state.step event).Steady := by
  obtain hold | ⟨request, -, hstart⟩ | ⟨index, earlier, rfl, hcall, hread⟩
    | ⟨index, earlier, rfl, hcall, hpass⟩ | ⟨request, rfl, hprod⟩ | ⟨-, hdisarm⟩ :=
    mem_calls_step hinput
  · exact ⟨(h.ready input hold hmoves).1, hguarded.undisturbed input hold hmoves⟩
  · obtain ⟨_, _, hstart⟩ := bind_ok.mp hstart
    cases hstart
  · obtain ⟨bounded, hnext, -, -⟩ | ⟨hnext, happlies⟩ := readAvailability_ok h.available hread
    · cases hnext
    · obtain rfl := ReignCall.ready.inj hnext
      have hallowed := hguarded.ungated index earlier rfl hcall happlies hmoves
      simp only [step, hcall, steady_settle]
      exact ⟨hallowed.1.input, hallowed.2⟩
  · obtain ⟨hnext, hstop | ⟨hsource, hmode, harmed, hreason⟩⟩ := passGate_ok hpass
    · obtain rfl := ReignCall.ready.inj hnext
      simp [CommandCall.input, hstop] at hmoves
    · obtain rfl := ReignCall.ready.inj hnext
      obtain ⟨snapshot, hlatest, hfree⟩ := hazardFree_of_status hreason
      have hfresh := hguarded.fresh index earlier _ snapshot rfl hcall hpass hmoves hlatest
      have hbounded := h.gated earlier (List.mem_of_getElem? hcall)
      have hallowed : Allowed earlier.source earlier.mode earlier.command earlier.ttlMs :=
        ⟨hsource, hmode, hbounded.1, hbounded.2⟩
      simp only [step, hcall, steady_settle]
      exact ⟨hallowed.input, harmed, snapshot, hlatest, hfresh, hfree⟩
  · exact absurd hprod (hguarded.prod request _ rfl)
  · obtain rfl := ReignCall.ready.inj hdisarm
    simp [disarmedInput] at hmoves

theorem Invariant.step (h : state.Invariant) (hguarded : state.Guarded event) :
    (state.step event).Invariant where
  available := available_step.trans h.available
  gated _ hcall := h.gated_step hcall
  ready _ hinput hmoves := h.ready_step hguarded hinput hmoves

theorem Invariant.lawful (h : state.Invariant) : state.Lawful event :=
  fun input hpush hmoves => h.ready input (ready_of_push hpush) hmoves

/-- A server whose hardware cockpit is available, and which handles no request yet. -/
structure Fresh (state : ReignServerState) : Prop where
  available : state.hardware.available = true
  idle : state.calls = []

theorem Fresh.invariant (h : state.Fresh) : state.Invariant where
  available := h.available
  gated := by simp [h.idle]
  ready := by simp [h.idle]

/-- No moving command enters between a disarm and the next arm. -/
def DisarmHolds (state : ReignServerState) (events : List ReignEvent) : Prop :=
  ∀ past between event, past ++ [.disarm] ++ between ++ [event] <+: events → .arm ∉ between →
    ∀ input, ((after step state (past ++ [.disarm] ++ between)).step event).queue
        = (after step state (past ++ [.disarm] ++ between)).queue.push input →
      input.command.movesRobot = false

theorem armed_step (h : state.hardware.armed = false) (hevent : event ≠ .arm) :
    (state.step event).hardware.armed = false := by
  cases event with
  | arm => exact absurd rfl hevent
  | request request => cases hstart : startCommand state.clock request <;>
      simpa [ReignServerState.step, accept, hstart] using h
  | prod request =>
    cases hprod : postReignProd state.latestSnapshot state.clock request <;>
      simpa [ReignServerState.step, accept, hprod] using h
  | available index =>
    simp only [ReignServerState.step]
    split
    next call _ =>
      cases readAvailability (state.hardwareControlStatus call.nowMs) call <;> exact h
    next => exact h
  | gate index =>
    simp only [ReignServerState.step]
    split
    next call _ => cases passGate (state.hardwareControlStatus call.nowMs) call <;> exact h
    next => exact h
  | push index => simp only [ReignServerState.step]; split <;> exact h
  | disarm => rfl
  | observe _ | tick _ | drain _ | clear => exact h

theorem armed_after (h : state.hardware.armed = false) {events : List ReignEvent}
    (hevents : .arm ∉ events) : (after ReignServerState.step state events).hardware.armed = false := by
  induction events generalizing state with
  | nil => exact h
  | cons event events ih =>
    simp only [List.mem_cons, not_or] at hevents
    exact ih (armed_step h (Ne.symm hevents.1)) hevents.2

/-- Along every guarded run each moving command that enters the queue is one that may, and none
enters between a disarm and the next arm. -/
theorem gate_holds (hfresh : state.Fresh) {events : List ReignEvent}
    (hevents : EachStep ReignServerState.step state Guarded events) :
    EachStep ReignServerState.step state Lawful events ∧ state.DisarmHolds events := by
  have hlawful : EachStep ReignServerState.step state Lawful events := by
    intro past event hpast
    have hprefix : past <+: events := (List.prefix_append past [event]).trans hpast
    exact ((hevents.of_isPrefix hprefix).invariant hfresh.invariant
      fun _ _ h hguarded => h.step hguarded).lawful
  refine ⟨hlawful, fun past between event hprefix hbetween input hpush => ?_⟩
  cases hmoves : input.command.movesRobot with
  | false => rfl
  | true =>
    have hsteady := (hlawful _ _ hprefix input hpush hmoves).2
    have hdisarmed : (after ReignServerState.step state
        (past ++ [ReignEvent.disarm] ++ between)).hardware.armed = false := by
      rw [after_append, after_append]
      exact armed_after rfl hbetween
    exact absurd (hdisarmed.symm.trans hsteady.armed) (by decide)

def restingServer : ReignServerState where
  hardware := .realSlow
  latestSnapshot := none
  clock := 1700000000500
  queue := {}
  calls := []

def restingSnapshot : WorldSnapshot := { body := { lastUpdateMs := 1700000000000 } }

def forwardRequest : ReignCommandRequest := { command := .go 1 1000 }

def forwardCall : CommandCall where
  nowMs := 1700000000500
  source := .webRemote
  mode := .direct
  command := .go 1 1000
  ttlMs := 1500
  priority := 0.8
  note := none

def armedServer : ReignServerState :=
  after step restingServer [.arm, .observe restingSnapshot, .request forwardRequest]

theorem guarded_of_other (hprod : ∀ request, event ≠ .prod request)
    (havailable : ∀ index, event ≠ .available index) (hgate : ∀ index, event ≠ .gate index)
    (hready : ∀ input, .ready input ∉ state.calls) : state.Guarded event where
  prod request _ h := absurd h (hprod request)
  ungated index _ h := absurd h (havailable index)
  fresh index _ _ _ h := absurd h (hgate index)
  undisturbed input h := absurd h (hready input)

theorem freshAt_resting : FreshAt restingServer.clock restingSnapshot := by
  constructor <;> decide

theorem steady_resting {state : ReignServerState} (harmed : state.hardware.armed = true)
    (hlatest : state.latestSnapshot = some restingSnapshot)
    (hclock : state.clock = restingServer.clock) : state.Steady where
  armed := harmed
  seen := by
    refine ⟨restingSnapshot, hlatest, hclock ▸ freshAt_resting, ?_⟩
    constructor <;> decide +kernel

theorem guarded_forward :
    EachStep step armedServer Guarded [.available 0, .gate 0, .push 0] := by
  have hstarted : armedServer.calls = [.started forwardCall] := by decide +kernel
  have hgated : (armedServer.step (.available 0)).calls
      = [.gated { forwardCall with command := .go 0.15 500, ttlMs := 500 }] := by decide +kernel
  have harmed : armedServer.hardware.armed = true := by decide +kernel
  simp only [eachStep_cons, eachStep_nil, and_true]
  refine ⟨⟨by simp, ?_, by simp, by simp [hstarted]⟩, ⟨by simp, by simp, ?_, by simp [hgated]⟩,
    ⟨by simp, by simp, by simp, fun _ _ _ => ?_⟩⟩
  · intro index call hindex hcall happlies
    obtain rfl := ReignEvent.available.inj hindex
    obtain rfl : forwardCall = call := by simpa [hstarted] using hcall
    exact absurd happlies (by decide)
  · intro index call passed snapshot _ _ _ _ hlatest
    obtain rfl : restingSnapshot = snapshot := by
      have hseen : (armedServer.step (.available 0)).latestSnapshot = some restingSnapshot := by
        decide +kernel
      exact Option.some.inj (hseen.symm.trans hlatest)
    have hclock : (armedServer.step (.available 0)).clock = restingServer.clock := by
      decide +kernel
    exact hclock ▸ freshAt_resting
  · exact steady_resting (by decide +kernel) (by decide +kernel) (by decide +kernel)

/-- A forward request to an armed cockpit with a fresh body. -/
theorem gate_holds_forward :
    EachStep step restingServer Lawful ([.arm, .observe restingSnapshot, .request forwardRequest]
        ++ [.available 0, .gate 0, .push 0])
      ∧ DisarmHolds restingServer ([.arm, .observe restingSnapshot, .request forwardRequest]
        ++ [.available 0, .gate 0, .push 0]) := by
  refine gate_holds ⟨rfl, rfl⟩ ?_
  have harm : (restingServer.step .arm).calls = [] := by decide +kernel
  have hobserve : ((restingServer.step .arm).step (.observe restingSnapshot)).calls = [] := by
    decide +kernel
  simp only [List.cons_append, List.nil_append, eachStep_cons]
  refine ⟨guarded_of_other (by simp) (by simp) (by simp) (by simp [restingServer]),
    guarded_of_other (by simp) (by simp) (by simp) (by simp [harm]),
    guarded_of_other (by simp) (by simp) (by simp) (by simp [hobserve]), ?_⟩
  simpa only [eachStep_cons, armedServer, after_cons, after_nil] using guarded_forward

/-- A prod moves a disarmed cockpit. -/
theorem prod_passes_gate :
    ¬ (EachStep step restingServer Lawful [.observe restingSnapshot, .prod {}, .push 0]
      ∧ DisarmHolds restingServer [.observe restingSnapshot, .prod {}, .push 0]) := by
  intro h
  have hpush := h.1 [.observe restingSnapshot, .prod {}] (.push 0) (by simp)
    { issuedAtMs := 1700000000500
      expiresAtMs := 1700000005500
      source := .humanSupervisor
      mode := .assist
      command := .explore 1500
      priority := 0.8
      note := some "manual prod" } (by decide +kernel) (by decide +kernel)
  exact absurd hpush.2.armed (by decide +kernel)

end ReignServerState

end Netherwick.Reign
