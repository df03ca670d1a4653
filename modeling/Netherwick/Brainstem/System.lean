import Netherwick.Brainstem.Refinement.Ingress
import Netherwick.Brainstem.Refinement.Tick

/-! # Runs of the firmware

The runtime ticks; between two ticks the ingress lane posts commands and requests. The clock of a
tick is whatever the counter shows then. -/

namespace Netherwick.Brainstem

open Netherwick.Lib

/-- What the board offers to one tick. -/
structure Inputs where
  nowUs : UInt32
  rx : List SerialRead := []
  uartFaults : List (Option Nat) := []
  baudAccepted : Bool := true
  chargingIndicator : Option Bool := none
  imuPoll : Except ImuHealth (Option ImuSample) := .ok none

inductive Action
  | tick (inputs : Inputs)
  | submit (commandId : UInt32) (command : BrainstemCommand) (sessionHash leaseHash : UInt32)
  | requestSessionReplace (generation sessionHash peerDeviceHash peerBootHash : UInt32)
  | requestAuthorityTransition (generation leaseHash sessionHash expiresMs : UInt32)
  | installServiceAuthority (sessionHash leaseHash expiresMs : UInt32) (scope : UInt8)

namespace World

open Control (Steps Step Sane)

/-- The firmware right after start-up; the body decides whether it may reset the motherbrain. -/
def boot (motherbrainResetEnabled : Bool) : World :=
  ((new {}).onRuntime fun rt =>
    { rt with motherbrainResetHardwareEnabled := motherbrainResetEnabled }).start

/-- The board as a tick finds it. -/
def feed (inputs : Inputs) (w : World) : World :=
  { w with dev := { w.dev with hw := { w.dev.hw with
      nowUs := inputs.nowUs, rx := w.dev.hw.rx ++ inputs.rx, uartFaults := inputs.uartFaults
      baudAccepted := inputs.baudAccepted, chargingIndicator := inputs.chargingIndicator
      imuPoll := inputs.imuPoll } } }

def act (w : World) : Action → World
  | .tick inputs => (w.feed inputs).tick
  | .submit commandId command sessionHash leaseHash =>
    w.onStatus fun st => (st.submitControlCommand commandId command sessionHash leaseHash).2
  | .requestSessionReplace generation sessionHash peerDeviceHash peerBootHash =>
    w.onStatus (·.requestSessionReplace generation sessionHash peerDeviceHash peerBootHash)
  | .requestAuthorityTransition generation leaseHash sessionHash expiresMs =>
    w.onStatus (·.requestAuthorityTransition generation leaseHash sessionHash expiresMs)
  | .installServiceAuthority sessionHash leaseHash expiresMs scope =>
    w.onStatus (·.installServiceAuthority sessionHash leaseHash expiresMs scope)

/-- The firmware after it was driven by these actions. -/
def run (motherbrainResetEnabled : Bool) (actions : List Action) : World :=
  actions.foldl act (boot motherbrainResetEnabled)

end World

namespace World

open Control (Steps Step Sane)

variable {w : World}

/-- An action of the ingress lane leaves the runtime alone. -/
structure ActsAside (w w' : World) : Prop where
  rt : w'.rt = w.rt
  numbered : w.Numbered → w'.Numbered
  control : ∃ mailbox recent, Delivers w.control.mailbox mailbox recent ∧
    w'.control = { w.control with mailbox, log := recent ++ w.log }

theorem act_aside {action : Action} (h : ∀ inputs, action ≠ .tick inputs) :
    ActsAside w (w.act action) := by
  have hposts : ∀ {f : Status → Status}, Status.Posts w.st (f w.st) →
      ActsAside w (w.onStatus f) := by
    intro f hf
    obtain ⟨recent, hdelivers, hlog⟩ := hf.delivers
    refine ⟨rfl, hf.numbered, (f w.st).mailbox, recent, hdelivers, ?_⟩
    rw [← hlog]
    show { w.control with
      mailbox := (f w.st).mailbox, hazardGeneration := (f w.st).hazardGeneration
      log := (f w.st).log } = _
    rw [hf.hazardGeneration]
    rfl
  cases action with
  | tick inputs => exact absurd rfl (h inputs)
  | submit => exact hposts (Status.submitControlCommand_posts _ _ _ _ _)
  | requestSessionReplace => exact hposts (.same rfl rfl)
  | requestAuthorityTransition => exact hposts (.same rfl rfl)
  | installServiceAuthority => exact hposts (.same rfl rfl)

theorem act_tick (inputs : Inputs) : w.act (.tick inputs) = (w.feed inputs).tick := rfl

theorem feed_control (inputs : Inputs) (w : World) :
    (w.feed inputs).control = { w.control with nowMs := inputs.nowUs / 1000 } := rfl

/-- What holds between any two actions. -/
structure Settled (w : World) : Prop where
  sane : w.control.Sane
  rested : Rested w
  numbered : w.Numbered

theorem boot_settled (motherbrainResetEnabled : Bool) : Settled (boot motherbrainResetEnabled) := by
  refine ⟨⟨fun h => absurd rfl h, fun h => absurd rfl h, fun h => absurd rfl h⟩, ⟨rfl, rfl⟩, ?_⟩
  exact Status.nextSeq_ne_zero _

theorem Settled.feed (h : Settled w) (inputs : Inputs) : Settled (w.feed inputs) :=
  ⟨⟨h.sane.careful, h.sane.active, h.sane.executing⟩,
    ⟨h.rested.dispatching, h.rested.executing⟩, h.numbered⟩

theorem Settled.tick_steps (h : Settled w) : Steps w.control w.tick.control :=
  (tick_rested h.numbered h.sane h.rested).1

theorem Settled.tick (h : Settled w) : Settled w.tick := by
  obtain ⟨hsteps, ⟨hrested, hnumbered⟩, -⟩ := tick_rested h.numbered h.sane h.rested
  exact ⟨h.sane.steps hsteps, hrested, hnumbered⟩

theorem Settled.act (h : Settled w) (action : Action) : Settled (w.act action) := by
  by_cases htick : ∃ inputs, action = .tick inputs
  · obtain ⟨inputs, rfl⟩ := htick
    exact (h.feed inputs).tick
  · have haside : ActsAside w (w.act action) :=
      act_aside fun inputs hsame => htick ⟨inputs, hsame⟩
    obtain ⟨hrt, hnumbered, mailbox, recent, -, hc⟩ := haside
    refine ⟨?_, ⟨(congrArg Runtime.dispatching hrt).trans h.rested.dispatching,
      (congrArg Runtime.executing hrt).trans h.rested.executing⟩, hnumbered h.numbered⟩
    rw [hc]
    exact ⟨h.sane.careful, h.sane.active, h.sane.executing⟩

theorem Settled.grows (h : Settled w) (action : Action) : w.log <:+ (w.act action).log := by
  by_cases htick : ∃ inputs, action = .tick inputs
  · obtain ⟨inputs, rfl⟩ := htick
    have hsteps := (h.feed inputs).tick_steps
    rw [act_tick]
    generalize (w.feed inputs).tick = w' at hsteps
    exact hsteps.grows
  · have haside : ActsAside w (w.act action) :=
      act_aside fun inputs hsame => htick ⟨inputs, hsame⟩
    obtain ⟨-, -, mailbox, recent, -, hc⟩ := haside
    exact ⟨recent, (congrArg Control.log hc).symm⟩

theorem Settled.run_grows {start : World} (h : Settled start) (actions : List Action) :
    start.log <:+ (actions.foldl World.act start).log := by
  induction actions generalizing start with
  | nil => exact List.suffix_refl _
  | cons action actions ih => exact (h.grows action).trans (ih (h.act action))

/-- An invariant of the skeleton that every action keeps, as long as the trace obeys a law. -/
structure Inductive (law : Obs → List Obs → Prop) (inv : Control → Prop) : Prop where
  step : ∀ c c', Step c c' → Annals law c'.log → inv c → inv c'
  clock : ∀ c nowMs, inv c → inv { c with nowMs }
  posts : ∀ c mailbox recent, Delivers c.mailbox mailbox recent →
    Annals law (recent ++ c.log) → inv c → inv { c with mailbox, log := recent ++ c.log }

variable {law : Obs → List Obs → Prop} {inv : Control → Prop}

theorem Inductive.act (hind : Inductive law inv) (h : Settled w) (action : Action)
    (hlaw : Annals law (w.act action).log) (hinv : inv w.control) :
    inv (w.act action).control := by
  by_cases htick : ∃ inputs, action = .tick inputs
  · obtain ⟨inputs, rfl⟩ := htick
    have hsteps := (h.feed inputs).tick_steps
    rw [act_tick] at hlaw ⊢
    generalize (w.feed inputs).tick = w' at hsteps hlaw ⊢
    refine hsteps.preserves hind.step hlaw ?_
    rw [feed_control]
    exact hind.clock _ _ hinv
  · have haside : ActsAside w (w.act action) :=
      act_aside fun inputs hsame => htick ⟨inputs, hsame⟩
    obtain ⟨-, -, mailbox, recent, hdelivers, hc⟩ := haside
    have hlog : (w.act action).log = recent ++ w.log := congrArg Control.log hc
    rw [hc]
    exact hind.posts _ mailbox recent hdelivers (hlog ▸ hlaw) hinv

theorem Inductive.runs (hind : Inductive law inv) (h : Settled w) (hinv : inv w.control)
    {actions : List Action} (hlaw : Annals law (actions.foldl World.act w).log) :
    inv (actions.foldl World.act w).control := by
  induction actions generalizing w with
  | nil => exact hinv
  | cons action actions ih =>
    have hnext := h.act action
    have hnow : Annals law (w.act action).log := hlaw.of_suffix (hnext.run_grows actions)
    exact ih hnext (hind.act h action hnow hinv) hlaw

theorem Inductive.run (hind : Inductive law inv) {motherbrainResetEnabled : Bool}
    (hboot : inv (boot motherbrainResetEnabled).control) {actions : List Action}
    (hlaw : Annals law (run motherbrainResetEnabled actions).log) :
    inv (run motherbrainResetEnabled actions).control :=
  hind.runs (boot_settled _) hboot hlaw

theorem Inductive.always (hind : Inductive (fun _ _ => True) inv) {motherbrainResetEnabled : Bool}
    (hboot : inv (boot motherbrainResetEnabled).control) (actions : List Action) :
    inv (World.run motherbrainResetEnabled actions).control :=
  hind.run hboot (annals_true _)

end World

end Netherwick.Brainstem
