import Netherwick.Cockpit.Interface

/-! # Requests and responses of the cockpit

What travels over a cockpit link, and what each request asks of the caller's authority. -/

namespace Netherwick.Cockpit

inductive CreateOiMode
  | passive | safe | full
  deriving DecidableEq, Repr

inductive EscapeDirection
  | left | right | either
  deriving DecidableEq, Repr

inductive SafetyAction
  | none | stop | backoff | bumpEscape
  deriving DecidableEq, Repr

structure SafetyPolicy where
  bump : SafetyAction
  cliff : SafetyAction
  wheelDropLatch : Bool
  deriving DecidableEq, Repr

inductive FeedbackKind
  | ok | error | armed | lostTarget | dockSeen | danger
  deriving DecidableEq, Repr

structure SongTone where
  note : UInt8
  duration64ths : UInt8
  deriving DecidableEq, Repr

inductive PowerStateRequest
  | wake | sleep | startOi | debugBaud19200 | debugBaud57600 | debugBaud115200
  deriving DecidableEq, Repr

inductive LightPattern
  | off | status | clean | dock | spot | max
  deriving DecidableEq, Repr

inductive AddressFamily
  | ipv4 | ipv6
  deriving DecidableEq, Repr

structure RegisterNetworkEndpoint where
  interfaceId : String
  addressFamily : AddressFamily
  address : String
  hostname : String
  leaseIdentity : String
  ttlSeconds : UInt32
  deriving DecidableEq, Repr

inductive ControlAuthority
  | motherbrain | forebrainRecovery | operatorDebug
  deriving DecidableEq, Repr

inductive ServiceScope
  | bootsel | restartCreate | resetMotherbrain
  deriving DecidableEq, Repr

inductive AuthorizationClass
  | readOnly | emergency | session | controlLease | serviceLease
  deriving DecidableEq, Repr

inductive CockpitRequest
  | ping
  | bootsel
  | restartCreate
  | resetMotherbrain
  | getStatus
  | getCapabilities
  | getEvents (sinceSeq : UInt32)
  | registerNetworkEndpoint (registration : RegisterNetworkEndpoint)
  | acquireControlLease (authority : ControlAuthority) (ttlMs : UInt32)
  | acquireServiceLease (scope : ServiceScope) (ttlMs : UInt32)
  | arm
  | disarm
  | stop
  | eStop
  | clearEStop
  | clearSafetyLatch (latch : SafetyLatchKind)
  | carefulMode (ttlMs : UInt32)
  | escapeMotion (hazard : SafetyLatchKind) (hazardGeneration : UInt32)
      (linearMmS angularMradS : Int16) (ttlMs : UInt32)
  | cmdVel (linearMmS angularMradS : Int16) (ttlMs : UInt32)
  | driveDirect (leftMmS rightMmS : Int16) (ttlMs : UInt32)
  | driveArc (velocityMmS radiusMm : Int16) (ttlMs : UInt32)
  | faceBearing (bearingMrad maxAngularMradS toleranceMrad : Int16) (ttlMs : UInt32)
  | trackBearing (bearingMrad : Int16) (rangeMm : UInt16) (maxLinearMmS maxAngularMradS : Int16)
      (stopRangeMm : UInt16) (ttlMs : UInt32)
  | turnBy (angleMrad angularMradS : Int16) (timeoutMs : UInt32)
  | driveFor (distanceMm velocityMmS : Int16) (timeoutMs : UInt32)
  | bumpEscape (direction : EscapeDirection) (backoffMmS turnAngularMradS : Int16)
  | holdHeading (headingErrorMrad velocityMmS maxAngularMradS : Int16) (ttlMs : UInt32)
  | turnToHeading (headingErrorMrad angularMradS toleranceMrad : Int16) (timeoutMs : UInt32)
  | arcFor (velocityMmS radiusMm : Int16) (durationMs : UInt32)
  | creepUntil (velocityMmS angularMradS : Int16) (timeoutMs : UInt32)
  | scanArc (angleMrad angularMradS : Int16) (timeoutMs : UInt32)
  | dockAlign (bearingMrad : Int16) (rangeMm : UInt16) (maxLinearMmS maxAngularMradS : Int16)
      (stopRangeMm : UInt16) (ttlMs : UInt32)
  | wallFollow (distanceErrorMm velocityMmS maxAngularMradS : Int16) (ttlMs : UInt32)
  | wiggleAlign (amplitudeMrad angularMradS : Int16) (cycles : UInt8)
  | unstick (direction : EscapeDirection) (backoffMmS turnAngularMradS : Int16)
  | cliffGuard (clear : Bool)
  | heartbeatStop (timeoutMs : UInt32)
  | requestSensors (packetId : UInt8)
  | streamSensors (enabled : Bool) (packetId : UInt8) (periodMs : UInt32)
  | setSafetyPolicy (policy : SafetyPolicy)
  | clearMotionQueue
  | defineChirp (feedback : FeedbackKind) (tones : List SongTone)
  | playFeedback (feedback : FeedbackKind)
  | setAudioSilent (silent : Bool)
  | powerState (request : PowerStateRequest)
  | createPowerOn
  | createPowerOff
  | calibrateTurn (angularMradS : Int16) (durationMs : UInt32)
  | orientationProbe (angularMradS : Int16) (durationMs : UInt32)
  | resetOdometry
  | zeroImuOrientation
  | clearImuOrientation
  | setMode (mode : CreateOiMode)
  | songDefine (id : UInt8) (tones : List SongTone)
  | songPlay (id : UInt8)
  | dock
  | setLights (pattern : LightPattern)
  deriving DecidableEq, Repr

namespace CockpitRequest

def requiredServiceScope : CockpitRequest → Option ServiceScope
  | bootsel => some .bootsel
  | restartCreate => some .restartCreate
  | resetMotherbrain => some .resetMotherbrain
  | _ => none

def requiresOperatorDebug : CockpitRequest → Bool
  | carefulMode .. => true
  | _ => false

def authorizationClass : CockpitRequest → AuthorizationClass
  | ping | getStatus | getCapabilities | getEvents .. => .readOnly
  | stop | eStop => .emergency
  | registerNetworkEndpoint .. | acquireControlLease .. | acquireServiceLease ..
  | requestSensors .. | streamSensors .. | setAudioSilent .. | disarm => .session
  | bootsel | restartCreate | resetMotherbrain => .serviceLease
  | _ => .controlLease

def bypassesClosedMotorGate : CockpitRequest → Bool
  | stop | eStop | clearEStop | clearSafetyLatch .. | carefulMode .. | escapeMotion ..
  | bumpEscape .. | unstick .. | cliffGuard .. | orientationProbe .. | zeroImuOrientation
  | clearImuOrientation => true
  | _ => false

def verb : CockpitRequest → String
  | ping => "ping"
  | bootsel => "bootsel"
  | restartCreate => "restart_create"
  | resetMotherbrain => "reset_motherbrain"
  | getStatus => "status"
  | getCapabilities => "get_capabilities"
  | getEvents .. => "get_events"
  | registerNetworkEndpoint .. => "register_network_endpoint"
  | acquireControlLease .. => "acquire_control_lease"
  | acquireServiceLease .. => "acquire_service_lease"
  | arm => "arm"
  | disarm => "disarm"
  | stop => "stop"
  | eStop => "estop"
  | clearEStop => "clear_estop"
  | clearSafetyLatch .. => "clear_safety_latch"
  | carefulMode .. => "careful_mode"
  | escapeMotion .. => "escape_motion"
  | cmdVel .. => "cmd_vel"
  | driveDirect .. => "drive_direct"
  | driveArc .. => "drive_arc"
  | faceBearing .. => "face_bearing"
  | trackBearing .. => "track_bearing"
  | turnBy .. => "turn_by"
  | driveFor .. => "drive_for"
  | bumpEscape .. => "bump_escape"
  | holdHeading .. => "hold_heading"
  | turnToHeading .. => "turn_to_heading"
  | arcFor .. => "arc_for"
  | creepUntil .. => "creep_until"
  | scanArc .. => "scan_arc"
  | dockAlign .. => "dock_align"
  | wallFollow .. => "wall_follow"
  | wiggleAlign .. => "wiggle_align"
  | unstick .. => "unstick"
  | cliffGuard .. => "cliff_guard"
  | heartbeatStop .. => "heartbeat_stop"
  | requestSensors .. => "request_sensors"
  | streamSensors .. => "stream_sensors"
  | setSafetyPolicy .. => "set_safety_policy"
  | clearMotionQueue => "clear_motion_queue"
  | defineChirp .. => "define_chirp"
  | playFeedback .. => "play_feedback"
  | setAudioSilent .. => "set_silent"
  | powerState .. => "power_state"
  | createPowerOn => "create_power_on"
  | createPowerOff => "create_power_off"
  | calibrateTurn .. => "calibrate_turn"
  | orientationProbe .. => "orientation_probe"
  | resetOdometry => "reset_odometry"
  | zeroImuOrientation => "zero_imu_orientation"
  | clearImuOrientation => "clear_imu_orientation"
  | setMode .. => "set_mode"
  | songDefine .. => "song_define"
  | songPlay .. => "song_play"
  | dock => "dock"
  | setLights .. => "set_lights"

def requiredCapability : CockpitRequest → Option String
  | bootsel | registerNetworkEndpoint .. | acquireControlLease .. | acquireServiceLease .. => none
  | other => some other.verb

def ttlOrTimeoutMs : CockpitRequest → Option UInt32
  | cmdVel _ _ ttlMs => some ttlMs
  | driveDirect _ _ ttlMs => some ttlMs
  | driveArc _ _ ttlMs => some ttlMs
  | faceBearing _ _ _ ttlMs => some ttlMs
  | trackBearing _ _ _ _ _ ttlMs => some ttlMs
  | holdHeading _ _ _ ttlMs => some ttlMs
  | dockAlign _ _ _ _ _ ttlMs => some ttlMs
  | wallFollow _ _ _ ttlMs => some ttlMs
  | turnBy _ _ timeoutMs => some timeoutMs
  | driveFor _ _ timeoutMs => some timeoutMs
  | creepUntil _ _ timeoutMs => some timeoutMs
  | scanArc _ _ timeoutMs => some timeoutMs
  | turnToHeading _ _ _ timeoutMs => some timeoutMs
  | arcFor _ _ durationMs => some durationMs
  | calibrateTurn _ durationMs => some durationMs
  | orientationProbe _ durationMs => some durationMs
  | heartbeatStop timeoutMs => some timeoutMs
  | carefulMode ttlMs => some ttlMs
  | escapeMotion _ _ _ _ ttlMs => some ttlMs
  | streamSensors _ _ periodMs => some periodMs
  | _ => none

end CockpitRequest

inductive CockpitEventKind
  | boot | commandAccepted | commandRejected | commandStarted | commandCompleted
  | commandInterrupted | commandTimedOut | commandRenewed | bodyPowerRequested | bodyPowerChanged
  | bodyModeRequested | bodyModeChanged | telemetryReceived | sensorFrameDecoded | motionRequested
  | motionStopped | safetyTripped | safetyCleared | bumpChanged | cliffChanged | wheelDropLatched
  | wheelDropCleared | wallChanged | virtualWallChanged | batteryLow | chargingStateChanged
  | buttonsChanged | irChanged | heartbeatExpired | eStopLatched | eStopCleared | imuFrameReceived
  | imuFault | tiltChanged | imuCalibrationChanged | motionInconsistencyDetected | impactDetected
  | sessionOpened | sessionReplaced | sessionClosed | sessionRejected | peerRebootDetected
  | transportChanged | dhcpLeaseChanged | dnsRegistrationChanged | authorityChanged
  | motherbrainResetRequested | motherbrainResetAsserted | motherbrainResetCompleted
  | motherbrainResetRefused | contactWithdrawalStarted | contactWithdrawalCompleted
  | audioStateChanged | error
  | unknown (kind : String)
  deriving DecidableEq, Repr

/-- `CockpitEventKind::from`. -/
def CockpitEventKind.ofText : String → CockpitEventKind
  | "boot" => .boot
  | "command_accepted" => .commandAccepted
  | "command_rejected" => .commandRejected
  | "command_started" => .commandStarted
  | "command_completed" => .commandCompleted
  | "command_interrupted" => .commandInterrupted
  | "command_timed_out" => .commandTimedOut
  | "command_renewed" => .commandRenewed
  | "body_power_requested" => .bodyPowerRequested
  | "body_power_changed" => .bodyPowerChanged
  | "body_mode_requested" => .bodyModeRequested
  | "body_mode_changed" => .bodyModeChanged
  | "telemetry_received" => .telemetryReceived
  | "sensor_frame_decoded" => .sensorFrameDecoded
  | "motion_requested" => .motionRequested
  | "motion_stopped" => .motionStopped
  | "safety_tripped" => .safetyTripped
  | "safety_cleared" => .safetyCleared
  | "bump_changed" => .bumpChanged
  | "cliff_changed" => .cliffChanged
  | "wheel_drop_latched" => .wheelDropLatched
  | "wheel_drop_cleared" => .wheelDropCleared
  | "wall_changed" => .wallChanged
  | "virtual_wall_changed" => .virtualWallChanged
  | "battery_low" => .batteryLow
  | "charging_state_changed" => .chargingStateChanged
  | "buttons_changed" => .buttonsChanged
  | "ir_changed" => .irChanged
  | "heartbeat_expired" => .heartbeatExpired
  | "estop_latched" => .eStopLatched
  | "estop_cleared" => .eStopCleared
  | "imu_frame_received" => .imuFrameReceived
  | "imu_fault" => .imuFault
  | "tilt_changed" => .tiltChanged
  | "imu_calibration_changed" => .imuCalibrationChanged
  | "motion_inconsistency_detected" => .motionInconsistencyDetected
  | "impact_detected" => .impactDetected
  | "session_opened" => .sessionOpened
  | "session_replaced" => .sessionReplaced
  | "session_closed" => .sessionClosed
  | "session_rejected" => .sessionRejected
  | "peer_reboot_detected" => .peerRebootDetected
  | "transport_changed" => .transportChanged
  | "dhcp_lease_changed" => .dhcpLeaseChanged
  | "dns_registration_changed" => .dnsRegistrationChanged
  | "authority_changed" => .authorityChanged
  | "motherbrain_reset_requested" => .motherbrainResetRequested
  | "motherbrain_reset_asserted" => .motherbrainResetAsserted
  | "motherbrain_reset_completed" => .motherbrainResetCompleted
  | "motherbrain_reset_refused" => .motherbrainResetRefused
  | "contact_withdrawal_started" => .contactWithdrawalStarted
  | "contact_withdrawal_completed" => .contactWithdrawalCompleted
  | "audio_state_changed" => .audioStateChanged
  | "error" => .error
  | other => .unknown other

structure CockpitEvent where
  seq : UInt32
  kind : CockpitEventKind
  a : UInt32
  b : UInt32
  c : UInt32
  deriving DecidableEq, Repr

structure EventBatch where
  sinceSeq : UInt32
  oldestSeq : UInt32
  nextSeq : UInt32
  droppedBeforeSeq : UInt32
  events : List CockpitEvent
  deriving DecidableEq, Repr

structure CockpitStatus where
  raw : String
  deriving DecidableEq, Repr

structure NetworkEndpointRegistered where
  sessionId : String
  fqdn : String
  address : String
  ttlSeconds : UInt32
  registrationGeneration : UInt32
  deriving DecidableEq, Repr

structure ControlLease where
  leaseId : String
  sessionId : String
  ownerRole : Netherwick.Brainstem.EndpointRole
  authority : ControlAuthority
  ttlMs : UInt32
  generation : UInt32
  deriving DecidableEq, Repr

structure ServiceLease where
  leaseId : String
  sessionId : String
  ownerRole : Netherwick.Brainstem.EndpointRole
  scope : ServiceScope
  ttlMs : UInt32
  generation : UInt32
  deriving DecidableEq, Repr

inductive CockpitResponse
  | accepted
  | rejected (message : String)
  | status (status : CockpitStatus)
  | capabilities (capabilities : CockpitCapabilities)
  | events (batch : EventBatch)
  | networkEndpointRegistered (registered : NetworkEndpointRegistered)
  | controlLeaseGranted (lease : ControlLease)
  | serviceLeaseGranted (lease : ServiceLease)
  deriving DecidableEq, Repr

end Netherwick.Cockpit
