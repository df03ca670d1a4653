import Netherwick.Brainstem.Session

/-! # The cockpit interface

What a client of the brainstem exchanges with it, whatever the link: handshakes, sessions, leases
and the errors a call can end in. -/

namespace Netherwick.Cockpit

open Netherwick.Brainstem (EndpointRole SessionPurpose)

section Handshake

/-- `HandshakeRejectReason` of the shared protocol. -/
abbrev HandshakeRejectReason : Type := Netherwick.Brainstem.Session.RejectReason

inductive HandshakeFeature
  | sessionIds | eventCursor | heartbeat | transportFailover | capabilityDigest
  | unknown (value : String)
  deriving DecidableEq, Repr

def HandshakeFeature.asStr : HandshakeFeature → String
  | sessionIds => "session_ids"
  | eventCursor => "event_cursor"
  | heartbeat => "heartbeat"
  | transportFailover => "transport_failover"
  | capabilityDigest => "capability_digest"
  | unknown value => value

structure SoftwareInfo where
  softwareName : String
  softwareVersion : String := ""
  buildId : String
  deriving DecidableEq, Repr

structure HandshakeHello where
  role : EndpointRole
  sessionPurpose : SessionPurpose := .control
  deviceId : String
  bootId : String
  handshakeNonce : String
  protocolMajor : UInt16
  protocolMinorMin : UInt16
  protocolMinorMax : UInt16
  supportedFeatures : List HandshakeFeature := []
  requiredFeatures : List HandshakeFeature := []
  preferredHeartbeatMs : UInt32
  software : SoftwareInfo
  deriving DecidableEq, Repr

structure SafetySnapshot where
  armed : Bool
  estopLatched : Bool
  safetyTripped : Bool
  activeMotion : Bool
  runtimeState : String
  deriving DecidableEq, Repr

structure CockpitLimits where
  maxLinearMmS : Int16 := Int16.maxValue
  maxAngularMradS : Int16 := Int16.maxValue
  minTtlMs : UInt32 := 1
  maxTtlMs : UInt32 := 0xFFFFFFFF
  deriving DecidableEq, Repr

structure CockpitCapabilities where
  bodyKind : String
  drive : String
  verbs : List String
  sensors : List String
  outputs : List String
  safety : List String
  events : List String
  independentWatchdog : Option Bool := none
  limits : CockpitLimits := {}
  deriving DecidableEq, Repr

/-- `CockpitContract` is a wrapper around the capabilities. -/
structure CockpitContract where
  capabilities : CockpitCapabilities
  deriving DecidableEq, Repr

structure HandshakeWelcome where
  role : EndpointRole
  deviceId : String
  bootId : String
  echoedHandshakeNonce : String
  sessionId : String
  protocolMajor : UInt16
  protocolMinor : UInt16
  supportedFeatures : List HandshakeFeature
  requiredFeatures : List HandshakeFeature
  heartbeatMinMs : UInt32
  heartbeatMaxMs : UInt32
  commandTtlMinMs : UInt32
  commandTtlMaxMs : UInt32
  currentEventNextSeq : UInt32
  capabilityContract : CockpitCapabilities
  software : SoftwareInfo
  safetySnapshot : SafetySnapshot
  deriving DecidableEq, Repr

structure HandshakeReject where
  echoedHandshakeNonce : String
  reasonCode : HandshakeRejectReason
  message : String
  supportedProtocolMajor : UInt16
  supportedMinorMin : UInt16
  supportedMinorMax : UInt16
  deriving DecidableEq, Repr

inductive HandshakeResponse
  | welcome (welcome : HandshakeWelcome)
  | reject (reject : HandshakeReject)
  deriving DecidableEq, Repr

structure CockpitSession where
  sessionId : String
  peerDeviceId : String
  peerBootId : String
  localDeviceId : String
  localBootId : String
  localRole : EndpointRole
  localPurpose : SessionPurpose := .control
  protocolMajor : UInt16
  protocolMinor : UInt16
  negotiatedFeatures : List HandshakeFeature
  heartbeatMs : UInt32
  deriving DecidableEq, Repr

inductive ReconnectClassification
  | initial | transportReconnect | brainstemReboot | replacementBrainstem
  deriving DecidableEq, Repr

structure HandshakeOutcome where
  welcome : HandshakeWelcome
  session : CockpitSession
  contract : CockpitContract
  eventCursor : UInt32
  classification : ReconnectClassification
  deriving DecidableEq, Repr

end Handshake

inductive SafetyLatchKind
  | bump | cliff | wheelDrop | heartbeat | tilt | impact | charging
  deriving DecidableEq, Repr

inductive SafeStopReason
  | safetyTripped (latch : Option SafetyLatchKind)
  | heartbeatExpired
  | eStopLatched
  deriving DecidableEq, Repr

/-- The errors of a cockpit call. Errors of a port, a socket or a decoder carry their text. -/
inductive CockpitError
  | io (error : String)
  | serial (error : String)
  | webSocket (error : String)
  | badResponse (response : String)
  | missedEvents (droppedBeforeSeq : UInt32)
  | motionStopped (reasons : List SafeStopReason)
  | rejected (commandId : UInt32) (reason : String)
  | policy (message : String)
  | json (error : String)
  | handshakeRejected (reject : HandshakeReject)
  | staleHandshake (expected received : String)
  | unsafeHandshake (message : String)
  | frameTooLarge (max : Nat)
  | sessionRequired
  | invalidSession (sessionId : String)
  deriving DecidableEq, Repr

end Netherwick.Cockpit
