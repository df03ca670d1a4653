import Mathlib.Logic.Basic
import Netherwick.Lib.Text

/-! # Host-aware control-path failover

The machine decides which path a host should use and whether it may ask the brainstem for
control. It cannot grant authority itself. Times are milliseconds of a clock that the caller
supplies; the source only ever subtracts them with saturation. -/

namespace Netherwick.HigherBrain

open Netherwick.Lib (isWhiteSpace)

inductive HostKind
  | motherbrain | forebrain
  deriving DecidableEq, Repr

structure HostIdentity where
  nodeId : String
  bootId : String
  kind : HostKind
  deriving DecidableEq, Repr

inductive PathKind
  | directEthernet | ordinaryWifi | brainstemTransit | brainstemUsb | brainstemWifi
  deriving DecidableEq, Repr

inductive AdvertisedRole
  | controlling | subordinate | candidate | unavailable
  deriving DecidableEq, Repr

inductive ConnectivityState
  | preferredPath | searchingOrdinaryNetwork | joiningBrainstemNetwork | peerReachableViaBrainstem
  | degradedButControlled | noControllerObserved | takeoverCandidate | controllingFallback
  | handbackPending
  deriving DecidableEq, Repr

/-- What the control surface says of the body's owner. A transport failure is `unknown`, which is
not evidence that nobody owns the body. -/
inductive ControllerStatus
  | unknown
  | uncontrolled (observedAtMs generation : Nat)
  | active (nodeId bootId : String) (observedAtMs leaseExpiresAtMs generation : Nat)
  deriving DecidableEq, Repr

namespace ControllerStatus

def freshAt (status : ControllerStatus) (nowMs freshnessMs : Nat) : Bool :=
  match status with
  | unknown => false
  | uncontrolled observedAtMs _ => nowMs - observedAtMs ≤ freshnessMs
  | active _ _ observedAtMs leaseExpiresAtMs _ =>
    nowMs - observedAtMs ≤ freshnessMs && nowMs < leaseExpiresAtMs

def activeOwner (status : ControllerStatus) (nowMs freshnessMs : Nat) : Option (String × String) :=
  if !status.freshAt nowMs freshnessMs then none
  else
    match status with
    | active nodeId bootId _ _ _ => some (nodeId, bootId)
    | _ => none

def freshUncontrolled (status : ControllerStatus) (nowMs freshnessMs : Nat) : Option Nat :=
  if !status.freshAt nowMs freshnessMs then none
  else
    match status with
    | uncontrolled _ generation => some generation
    | _ => none

end ControllerStatus

inductive AcquisitionResult
  | granted | refused
  deriving DecidableEq, Repr

structure ConnectivityObservation where
  nowMs : Nat
  directPeerReachable : Bool := false
  ordinaryWifiPeerReachable : Bool := false
  brainstemNetworkAssociated : Bool := false
  peerReachableViaBrainstem : Bool := false
  brainstemUsbHealthy : Bool := false
  brainstemWifiHealthy : Bool := false
  peerIdentity : Option HostIdentity := none
  peerObservedAtMs : Option Nat := none
  controller : ControllerStatus := .unknown
  acquisitionResult : Option AcquisitionResult := none
  acquisitionGeneration : Option Nat := none
  safeHandoffBoundary : Bool := false
  activeSafeSequence : Bool := false
  deriving DecidableEq, Repr

inductive FailoverAction
  | searchPeer (path : PathKind)
  | joinBrainstemNetwork
  | usePath (path : PathKind)
  | observeAuthoritativeController
  | attemptAtomicAcquisition (expectedGeneration : Nat)
  | startBodyFacingRole
  | continueBodyFacingRole
  | waitForSafeHandoffBoundary
  | releasePossession
  | remainSubordinate
  deriving DecidableEq, Repr

structure FailoverEvent where
  atMs : Nat
  «from» : ConnectivityState
  «to» : ConnectivityState
  reason : String
  deriving DecidableEq, Repr

structure FailoverDecision where
  state : ConnectivityState
  stateAgeMs : Nat
  role : AdvertisedRole
  activePath : Option PathKind
  controllerNodeId : Option String
  peerVisible : Bool
  actions : List FailoverAction
  events : List FailoverEvent
  reason : String
  deriving DecidableEq, Repr

inductive EmergencyService
  | peerDiscovery | peerHealth | roleCoordination | possessionStatus | possessionAcquire | handback
  deriving DecidableEq, Repr

/-- The settings, with the defaults the source gives them. -/
structure FailoverConfig where
  enabled : Bool := true
  takeoverEnabled : Bool := false
  preferredPaths : List PathKind := [.directEthernet, .ordinaryWifi, .brainstemTransit]
  peerNames : List String := ["motherbrain.local", "motherbrain.pete.internal"]
  brainstemSsid : String := "pete-<device>"
  brainstemCredentialRef : Option String := none
  controllerFreshnessMs : Nat := 2000
  peerFreshnessMs : Nat := 3000
  takeoverGraceMs : Nat := 5000
  ordinarySearchMs : Nat := 3000
  retryBackoffMs : Nat := 1000
  pathHysteresisMs : Nat := 2000
  permittedEmergencyServices : EmergencyService → Option UInt16 := fun
    | .peerDiscovery => some 5353
    | .peerHealth => some 8787
    | .roleCoordination => some 8787
    | .possessionStatus => some 80
    | .possessionAcquire => some 80
    | .handback => some 8787
  handbackAutomatic : Bool := true

namespace FailoverConfig

def requiredServices : List EmergencyService :=
  [.peerDiscovery, .peerHealth, .roleCoordination, .possessionStatus, .possessionAcquire, .handback]

def validate (config : FailoverConfig) : Except String Unit :=
  if config.controllerFreshnessMs = 0 ∨ config.peerFreshnessMs = 0 ∨ config.takeoverGraceMs = 0 ∨
      config.ordinarySearchMs = 0 ∨ config.retryBackoffMs = 0 ∨ config.pathHysteresisMs = 0 then
    .error "failover timing thresholds must be nonzero"
  else if config.peerNames.isEmpty || config.brainstemSsid.toList.all isWhiteSpace then
    .error "failover discovery names and brainstem SSID must be explicit"
  else if config.preferredPaths ≠ [.directEthernet, .ordinaryWifi, .brainstemTransit] then
    .error ("failover path order must be direct Ethernet, ordinary Wi-Fi, then brainstem " ++
      "transit")
  else if config.brainstemCredentialRef.any
      fun value => value.toList.contains '=' || value.toList.contains ' ' then
    .error "brainstem_credential_ref must name an external secret, not contain one"
  else if requiredServices.any
      fun service => (config.permittedEmergencyServices service).isNone then
    .error "all bounded emergency services must have an explicit port"
  else .ok ()

theorem validate_default : validate {} = .ok () := by rfl

theorem timing_pos_of_validate {config : FailoverConfig} (h : config.validate = .ok ()) :
    0 < config.takeoverGraceMs ∧ 0 < config.retryBackoffMs ∧ 0 < config.pathHysteresisMs := by
  unfold validate at h
  split at h
  · cases h
  · omega

end FailoverConfig

structure HostFailover where
  identity : HostIdentity
  config : FailoverConfig
  state : ConnectivityState
  stateSinceMs : Nat
  outageSinceMs : Option Nat
  uncontrolledSinceMs : Option Nat
  preferredSeenSinceMs : Option Nat
  lastAcquisitionAttemptMs : Option Nat
  lastAcquisitionGeneration : Option Nat
  activePath : Option PathKind

namespace HostFailover

variable (m : HostFailover) (o : ConnectivityObservation)

def new (identity : HostIdentity) (config : FailoverConfig) (nowMs : Nat) :
    Except String HostFailover := do
  config.validate
  return {
    identity := identity
    config := config
    state := .preferredPath
    stateSinceMs := nowMs
    outageSinceMs := none
    uncontrolledSinceMs := none
    preferredSeenSinceMs := none
    lastAcquisitionAttemptMs := none
    lastAcquisitionGeneration := none
    activePath := none }

def peerObservationFresh : Bool :=
  o.peerObservedAtMs.any fun observedAtMs => o.nowMs - observedAtMs ≤ m.config.peerFreshnessMs

def activeOwner : Option (String × String) :=
  o.controller.activeOwner o.nowMs m.config.controllerFreshnessMs

def selfControls : Bool :=
  (m.activeOwner o).any fun owner =>
    owner.1 = m.identity.nodeId && owner.2 = m.identity.bootId

/-- Called `other_controls` on the motherbrain and `motherbrain_controls` on the forebrain. -/
def otherControls : Bool :=
  (m.activeOwner o).any fun owner =>
    owner.1 ≠ m.identity.nodeId || owner.2 ≠ m.identity.bootId

def freshUncontrolled : Option Nat :=
  o.controller.freshUncontrolled o.nowMs m.config.controllerFreshnessMs

def resultMatchesAttempt : Bool :=
  o.acquisitionGeneration.isSome && o.acquisitionGeneration = m.lastAcquisitionGeneration

def withinBackoff : Bool :=
  m.lastAcquisitionAttemptMs.any fun last => o.nowMs - last < m.config.retryBackoffMs

def decision (role : AdvertisedRole) (actions : List FailoverAction) (reason : String)
    (events : List FailoverEvent) : FailoverDecision where
  state := m.state
  stateAgeMs := o.nowMs - m.stateSinceMs
  role := role
  activePath := m.activePath
  controllerNodeId := (m.activeOwner o).map Prod.fst
  peerVisible := m.peerObservationFresh o &&
    (o.directPeerReachable || o.ordinaryWifiPeerReachable || o.peerReachableViaBrainstem)
  actions := actions
  events := events
  reason := reason

def transitionDecision (next : ConnectivityState) (role : AdvertisedRole)
    (actions : List FailoverAction) (reason : String) : HostFailover × FailoverDecision :=
  if next ≠ m.state then
    let moved := { m with state := next, stateSinceMs := o.nowMs }
    (moved, moved.decision o role actions reason
      [{ atMs := o.nowMs, «from» := m.state, «to» := next, reason := reason }])
  else (m, m.decision o role actions reason [])

/-- The rest of a motherbrain tick once it has a body link. -/
def tickMotherbrainPath (path : PathKind) (state : ConnectivityState) (selfControls : Bool)
    (controllingReason : String) : HostFailover × FailoverDecision :=
  let m := { m with activePath := some path }
  if selfControls then
    { m with lastAcquisitionAttemptMs := none, lastAcquisitionGeneration := none }
      |>.transitionDecision o state .controlling [.usePath path, .continueBodyFacingRole]
        controllingReason
  else if o.acquisitionResult = some .granted ∧ m.resultMatchesAttempt o then
    { m with lastAcquisitionAttemptMs := none, lastAcquisitionGeneration := none }
      |>.transitionDecision o state .controlling [.usePath path, .startBodyFacingRole]
        "atomic possession acquisition granted to the preferred motherbrain"
  else if o.acquisitionResult = some .refused ∧ m.resultMatchesAttempt o then
    { m with lastAcquisitionAttemptMs := some o.nowMs, lastAcquisitionGeneration := none }
      |>.transitionDecision o state .subordinate [.usePath path, .remainSubordinate]
        "possession acquisition was refused; motherbrain will not actuate"
  else
    match m.freshUncontrolled o with
    | none =>
      m.transitionDecision o state .candidate [.usePath path, .observeAuthoritativeController]
        ("motherbrain transport is healthy but controller status is not fresh enough to " ++
          "acquire")
    | some generation =>
      if m.withinBackoff o then
        m.transitionDecision o state .candidate [.usePath path, .observeAuthoritativeController]
          "motherbrain possession retry is within bounded backoff"
      else
        { m with
          lastAcquisitionAttemptMs := some o.nowMs
          lastAcquisitionGeneration := some generation }
          |>.transitionDecision o state .candidate
            [.usePath path, .attemptAtomicAcquisition generation]
            ("fresh no-controller status permits the preferred motherbrain to acquire " ++
              "atomically")

def tickMotherbrain : HostFailover × FailoverDecision :=
  if m.otherControls o then
    if m.peerObservationFresh o && (o.directPeerReachable || o.peerReachableViaBrainstem) then
      m.transitionDecision o .handbackPending .subordinate
        (if m.config.handbackAutomatic then [.remainSubordinate, .waitForSafeHandoffBoundary]
          else [.remainSubordinate])
        ("returning motherbrain observed fallback controller; waiting for coordinated " ++
          "handback")
    else
      m.transitionDecision o .degradedButControlled .subordinate [.remainSubordinate]
        "another fresh controller remains authoritative"
  else if o.brainstemUsbHealthy then
    m.tickMotherbrainPath o .brainstemUsb .preferredPath (m.selfControls o)
      ("motherbrain body link is healthy; forebrain visibility does not affect control " ++
        "role")
  else if o.brainstemWifiHealthy then
    m.tickMotherbrainPath o .brainstemWifi .degradedButControlled (m.selfControls o)
      "USB transport failed; motherbrain retains its role over brainstem Wi-Fi"
  else
    { m with activePath := none }
      |>.transitionDecision o .degradedButControlled
        (if m.selfControls o then .controlling else .unavailable)
        [.observeAuthoritativeController]
        "body transport unavailable; role is not reassigned by transport loss"

def motherbrainReturned : Bool :=
  (o.peerIdentity.any fun peer => peer.kind = .motherbrain) && m.peerObservationFresh o &&
    (o.directPeerReachable || o.ordinaryWifiPeerReachable || o.peerReachableViaBrainstem)

def tickControllingForebrain : HostFailover × FailoverDecision :=
  let m := { m with lastAcquisitionAttemptMs := none, lastAcquisitionGeneration := none }
  if m.motherbrainReturned o then
    m.transitionDecision o .handbackPending .controlling
      (if o.safeHandoffBoundary && !o.activeSafeSequence && m.config.handbackAutomatic then
        [.releasePossession] else [.waitForSafeHandoffBoundary])
      ("preferred motherbrain returned; preserve one controller until a safe handoff " ++
        "boundary")
  else
    { m with activePath := some .brainstemWifi }
      |>.transitionDecision o .controllingFallback .controlling [.continueBodyFacingRole]
        "forebrain holds the authoritative fallback lease"

/-- Direct Ethernet counts once it has been there for a while, or if it was never lost. -/
def directPathStable : Bool :=
  m.state = .preferredPath ||
    m.config.pathHysteresisMs ≤ o.nowMs - m.preferredSeenSinceMs.getD o.nowMs

def tickDirectForebrain : HostFailover × FailoverDecision :=
  let m := { m with preferredSeenSinceMs := some (m.preferredSeenSinceMs.getD o.nowMs) }
  if m.directPathStable o then
    { m with
      outageSinceMs := none
      uncontrolledSinceMs := none
      activePath := some .directEthernet }
      |>.transitionDecision o .preferredPath .subordinate
        [.usePath .directEthernet, .remainSubordinate] "direct Ethernet peer path is stable"
  else
    m.transitionDecision o .degradedButControlled .subordinate
      ((m.activePath.map FailoverAction.usePath).toList ++ [.remainSubordinate])
      "direct Ethernet returned but has not met the failback hysteresis interval"

/-- The end of a forebrain tick, with the grace interval behind it. -/
def tickEligibleForebrain (generation : Nat) : HostFailover × FailoverDecision :=
  if o.acquisitionResult = some .granted ∧ m.resultMatchesAttempt o then
    { m with
      activePath := some .brainstemWifi
      lastAcquisitionAttemptMs := none
      lastAcquisitionGeneration := none }
      |>.transitionDecision o .controllingFallback .controlling [.startBodyFacingRole]
        ("atomic brainstem acquisition granted; forebrain may start the ordinary " ++
          "body-facing role")
  else if o.acquisitionResult = some .refused ∧ m.resultMatchesAttempt o then
    { m with lastAcquisitionAttemptMs := some o.nowMs, lastAcquisitionGeneration := none }
      |>.transitionDecision o .noControllerObserved .subordinate [.remainSubordinate]
        "atomic acquisition was refused; no ordinary actuation is permitted"
  else if m.withinBackoff o then
    m.transitionDecision o .takeoverCandidate .candidate [.observeAuthoritativeController]
      "takeover retry is within bounded backoff"
  else
    { m with
      lastAcquisitionAttemptMs := some o.nowMs
      lastAcquisitionGeneration := some generation }
      |>.transitionDecision o .takeoverCandidate .candidate
        [.attemptAtomicAcquisition generation]
        "peer paths are exhausted and fresh authoritative status reports no controller"

def graceElapsed (uncontrolledSince : Nat) : Bool :=
  m.config.takeoverEnabled && m.config.takeoverGraceMs ≤ o.nowMs - uncontrolledSince

/-- A forebrain tick whose peer paths are exhausted: what the control surface says decides. -/
def tickOrphanedForebrain : HostFailover × FailoverDecision :=
  match m.freshUncontrolled o with
  | none =>
    { m with uncontrolledSinceMs := none }
      |>.transitionDecision o .noControllerObserved .subordinate
        [.observeAuthoritativeController]
        ("controller status is unknown or stale; absence of peer visibility cannot " ++
          "authorize takeover")
  | some generation =>
    let uncontrolledSince := m.uncontrolledSinceMs.getD o.nowMs
    let m := { m with uncontrolledSinceMs := some uncontrolledSince }
    if !m.graceElapsed o uncontrolledSince then
      m.transitionDecision o .noControllerObserved .subordinate
        [.observeAuthoritativeController]
        (if m.config.takeoverEnabled then
          "fresh no-controller status observed; takeover grace interval has not elapsed"
        else "fallback takeover is disabled")
    else m.tickEligibleForebrain o generation

/-- A forebrain tick without the direct path. -/
def tickSearchingForebrain : HostFailover × FailoverDecision :=
  let outageSince := m.outageSinceMs.getD o.nowMs
  let m := { m with preferredSeenSinceMs := none, outageSinceMs := some outageSince }
  if o.ordinaryWifiPeerReachable && m.peerObservationFresh o then
    { m with activePath := some .ordinaryWifi }
      |>.transitionDecision o .degradedButControlled .subordinate
        [.usePath .ordinaryWifi, .remainSubordinate]
        "motherbrain rediscovered on ordinary Wi-Fi; control hierarchy is unchanged"
  else if o.nowMs - outageSince < m.config.ordinarySearchMs then
    { m with activePath := none }
      |>.transitionDecision o .searchingOrdinaryNetwork .subordinate [.searchPeer .ordinaryWifi]
        "direct path failed; ordinary Wi-Fi discovery precedes emergency association"
  else if !o.brainstemNetworkAssociated then
    { m with activePath := none }
      |>.transitionDecision o .joiningBrainstemNetwork .subordinate [.joinBrainstemNetwork]
        "ordinary paths exhausted; joining the brainstem network grants connectivity only"
  else if o.peerReachableViaBrainstem && m.peerObservationFresh o then
    { m with activePath := some .brainstemTransit, uncontrolledSinceMs := none }
      |>.transitionDecision o .peerReachableViaBrainstem .subordinate
        [.usePath .brainstemTransit, .remainSubordinate]
        ("motherbrain is reachable through brainstem transit and remains the body-facing " ++
          "host")
  else if m.otherControls o then
    { m with activePath := some .brainstemTransit, uncontrolledSinceMs := none }
      |>.transitionDecision o .degradedButControlled .subordinate
        [.observeAuthoritativeController, .remainSubordinate]
        ("peer is not visible but the authoritative control surface reports a live " ++
          "controller")
  else m.tickOrphanedForebrain o

def tickForebrain : HostFailover × FailoverDecision :=
  if m.selfControls o then m.tickControllingForebrain o
  else if o.directPeerReachable && m.peerObservationFresh o then m.tickDirectForebrain o
  else m.tickSearchingForebrain o

def tick : HostFailover × FailoverDecision :=
  if !m.config.enabled then
    (m, m.decision o .unavailable [.remainSubordinate] "failover disabled" [])
  else
    match m.identity.kind with
    | .motherbrain => m.tickMotherbrain o
    | .forebrain => m.tickForebrain o

end HostFailover

end Netherwick.HigherBrain
