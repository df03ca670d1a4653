import Netherwick.Cockpit.Interface

/-! # Handshake agreement

The reference server negotiates a hello and the client validates the answer. The two check
different things. -/

namespace Netherwick.Cockpit

open Netherwick.Brainstem (EndpointRole SessionPurpose utf8)
open Netherwick.Brainstem.Session (acceptsClientRole negotiateMinor protocolMajor protocolMinorMin
  protocolMinorMax validIdentityToken)

section Negotiate

def defaultFeatures : List HandshakeFeature :=
  [.sessionIds, .eventCursor, .heartbeat, .transportFailover]

def validId (value : String) : Bool := validIdentityToken (utf8 value) 64

/-- What the session identifier is hashed from. -/
structure SessionSeed where
  helloDeviceId : String
  role : EndpointRole
  sessionPurpose : SessionPurpose
  helloBootId : String
  deviceId : String
  bootId : String
  handshakeNonce : String
  serial : UInt64

/-- Sixteen hexadecimal digits. -/
def hex16 (value : UInt64) : String :=
  let digits := Nat.toDigits 16 value.toNat
  String.ofList (List.replicate (16 - digits.length) '0' ++ digits)

/-- The hasher is the standard library's, whose algorithm is not promised. -/
def deriveSessionId (hasher : SessionSeed → UInt64) (hello : HandshakeHello)
    (deviceId bootId : String) (serial : UInt64) : String :=
  "sess-" ++ hex16 (hasher
    { helloDeviceId := hello.deviceId
      role := hello.role
      sessionPurpose := hello.sessionPurpose
      helloBootId := hello.bootId
      deviceId := deviceId
      bootId := bootId
      handshakeNonce := hello.handshakeNonce
      serial := serial })

/-- The side of a negotiation that does not depend on the hello. -/
structure BrainstemSide where
  hasher : SessionSeed → UInt64
  brainstemDeviceId : String
  brainstemBootId : String
  capabilities : CockpitCapabilities
  safetySnapshot : SafetySnapshot
  currentEventNextSeq : UInt32
  software : SoftwareInfo
  sessionSerial : UInt64

def rejection (hello : HandshakeHello) (reasonCode : HandshakeRejectReason) (message : String) :
    HandshakeResponse :=
  .reject {
    echoedHandshakeNonce := hello.handshakeNonce
    reasonCode := reasonCode
    message := message
    supportedProtocolMajor := protocolMajor
    supportedMinorMin := protocolMinorMin
    supportedMinorMax := protocolMinorMax }

def negotiate (hello : HandshakeHello) (side : BrainstemSide) : HandshakeResponse :=
  if !acceptsClientRole hello.role then
    rejection hello .wrongRole "brainstem and simulator roles cannot claim a client session"
  else if !validId hello.deviceId || !validId hello.bootId || !validId hello.handshakeNonce then
    rejection hello .invalidIdentity "identity fields must be bounded printable tokens"
  else
    match negotiateMinor hello.protocolMajor hello.protocolMinorMin hello.protocolMinorMax with
    | .error reason => rejection hello reason "protocol versions are incompatible"
    | .ok high =>
      if hello.requiredFeatures.any fun feature => !defaultFeatures.contains feature then
        rejection hello .missingRequiredFeature "required feature is unavailable"
      else
        .welcome {
          role := .brainstem
          deviceId := side.brainstemDeviceId
          bootId := side.brainstemBootId
          echoedHandshakeNonce := hello.handshakeNonce
          sessionId := deriveSessionId side.hasher hello side.brainstemDeviceId
            side.brainstemBootId side.sessionSerial
          protocolMajor := protocolMajor
          protocolMinor := high
          supportedFeatures := defaultFeatures
          requiredFeatures := [.sessionIds]
          heartbeatMinMs := 250
          heartbeatMaxMs := 2000
          commandTtlMinMs := side.capabilities.limits.minTtlMs
          commandTtlMaxMs := side.capabilities.limits.maxTtlMs
          currentEventNextSeq := side.currentEventNextSeq
          capabilityContract := side.capabilities
          software := side.software
          safetySnapshot := side.safetySnapshot }

end Negotiate

section Validate

/-- `Ord::clamp` asserts that its bounds are in order. -/
def clamp? (value low high : UInt32) : Option UInt32 :=
  if low ≤ high then some (if value < low then low else if high < value then high else value)
  else none

/-- The feature as it is printed for debugging, given how a string is. -/
def HandshakeFeature.debug (debugText : String → String) : HandshakeFeature → String
  | sessionIds => "SessionIds"
  | eventCursor => "EventCursor"
  | heartbeat => "Heartbeat"
  | transportFailover => "TransportFailover"
  | capabilityDigest => "CapabilityDigest"
  | unknown value => "Unknown(" ++ debugText value ++ ")"

def incompatible (hello : HandshakeHello) (welcome : HandshakeWelcome) : Bool :=
  welcome.role ≠ .brainstem || welcome.protocolMajor ≠ hello.protocolMajor ||
    welcome.protocolMinor < hello.protocolMinorMin ||
    welcome.protocolMinor > hello.protocolMinorMax

def unsupportedFeature (hello : HandshakeHello) (welcome : HandshakeWelcome) :
    Option HandshakeFeature :=
  welcome.requiredFeatures.find? fun feature => !hello.supportedFeatures.contains feature

/-- A panic of the source is `none`. -/
def HandshakeOutcome.validate (debugText : String → String) (hello : HandshakeHello)
    (response : HandshakeResponse) : Option (Except CockpitError HandshakeOutcome) :=
  match response with
  | .reject reject => some (.error (.handshakeRejected reject))
  | .welcome welcome =>
    if welcome.echoedHandshakeNonce ≠ hello.handshakeNonce then
      some (.error (.staleHandshake hello.handshakeNonce welcome.echoedHandshakeNonce))
    else if incompatible hello welcome then
      some (.error (.badResponse "welcome contains incompatible negotiated values"))
    else
      match unsupportedFeature hello welcome with
      | some feature =>
        some (.error (.badResponse
          ("brainstem requires unsupported feature " ++ feature.debug debugText)))
      | none => do
          let heartbeatMs ← clamp? hello.preferredHeartbeatMs welcome.heartbeatMinMs
            welcome.heartbeatMaxMs
          return .ok {
            eventCursor := welcome.currentEventNextSeq
            welcome := welcome
            session := {
              sessionId := welcome.sessionId
              peerDeviceId := welcome.deviceId
              peerBootId := welcome.bootId
              localDeviceId := hello.deviceId
              localBootId := hello.bootId
              localRole := hello.role
              localPurpose := hello.sessionPurpose
              protocolMajor := welcome.protocolMajor
              protocolMinor := welcome.protocolMinor
              negotiatedFeatures :=
                welcome.supportedFeatures.filter hello.supportedFeatures.contains
              heartbeatMs := heartbeatMs }
            contract := ⟨welcome.capabilityContract⟩
            classification := .initial }

end Validate

section Agreement

variable {debugText : String → String} {hello : HandshakeHello} {side : BrainstemSide}
  {welcome : HandshakeWelcome}

/-- The server asks for nothing more than this of a hello. -/
def HandshakeHello.acceptable (hello : HandshakeHello) : Bool :=
  acceptsClientRole hello.role && validId hello.deviceId && validId hello.bootId &&
    validId hello.handshakeNonce &&
    (negotiateMinor hello.protocolMajor hello.protocolMinorMin hello.protocolMinorMax).isOk &&
    hello.requiredFeatures.all defaultFeatures.contains

/-- The welcome passes the checks of the client. -/
def Compatible (hello : HandshakeHello) (welcome : HandshakeWelcome) : Prop :=
  welcome.echoedHandshakeNonce = hello.handshakeNonce ∧ incompatible hello welcome = false ∧
    unsupportedFeature hello welcome = none

/-- What client and server owe each other on a hello, and the client on any response. -/
structure Agreement (debugText : String → String) (hello : HandshakeHello) (side : BrainstemSide)
    (response : HandshakeResponse) : Prop where
  welcomed : ∀ welcome, negotiate hello side = .welcome welcome →
    ∃ outcome, HandshakeOutcome.validate debugText hello (.welcome welcome) = some (.ok outcome) ∧
      hello.protocolMinorMin ≤ outcome.session.protocolMinor ∧
      outcome.session.protocolMinor ≤ hello.protocolMinorMax ∧
      protocolMinorMin ≤ outcome.session.protocolMinor ∧
      outcome.session.protocolMinor ≤ protocolMinorMax ∧
      ∀ feature ∈ outcome.session.negotiatedFeatures,
        feature ∈ hello.supportedFeatures ∧ feature ∈ defaultFeatures
  refused : ∀ reject, negotiate hello side = .reject reject →
    HandshakeOutcome.validate debugText hello (.reject reject) =
      some (.error (.handshakeRejected reject))
  total : (HandshakeOutcome.validate debugText hello response).isSome = true
  faithful : ∀ outcome, HandshakeOutcome.validate debugText hello response = some (.ok outcome) →
    ∃ welcome, response = .welcome welcome ∧
      welcome.echoedHandshakeNonce = hello.handshakeNonce ∧ welcome.role = .brainstem

theorem negotiateMinor_ok {major low high minor : UInt16}
    (h : negotiateMinor major low high = .ok minor) :
    major = protocolMajor ∧ low ≤ minor ∧ minor ≤ high ∧ protocolMinorMin ≤ minor ∧
      minor ≤ protocolMinorMax := by
  unfold negotiateMinor at h
  split at h
  · cases h
  · rename_i hmajor
    extract_lets lowest highest at h
    split at h
    · cases h
    · rename_i hrange
      have hminor : highest = minor := Except.ok.inj h
      have hlowest : low ≤ lowest ∧ protocolMinorMin ≤ lowest := by
        simp only [lowest, gt_iff_lt, UInt16.le_iff_toNat_le, UInt16.lt_iff_toNat_lt]
        split <;> omega
      have hhighest : highest ≤ high ∧ highest ≤ protocolMinorMax := by
        simp only [highest, UInt16.le_iff_toNat_le, UInt16.lt_iff_toNat_lt]
        split <;> omega
      have hle : lowest ≤ highest := UInt16.not_lt.mp hrange
      rw [← hminor]
      exact ⟨not_not.mp hmajor, UInt16.le_trans hlowest.1 hle, hhighest.1,
        UInt16.le_trans hlowest.2 hle, hhighest.2⟩

theorem negotiate_welcome (h : negotiate hello side = .welcome welcome) :
    hello.acceptable = true ∧ welcome.role = .brainstem ∧
      welcome.echoedHandshakeNonce = hello.handshakeNonce ∧
      negotiateMinor hello.protocolMajor hello.protocolMinorMin hello.protocolMinorMax =
        .ok welcome.protocolMinor ∧ welcome.protocolMajor = protocolMajor ∧
      welcome.supportedFeatures = defaultFeatures ∧ welcome.requiredFeatures = [.sessionIds] ∧
      welcome.heartbeatMinMs = 250 ∧ welcome.heartbeatMaxMs = 2000 := by
  unfold negotiate at h
  split at h
  · cases h
  · rename_i hrole
    split at h
    · cases h
    · rename_i hids
      split at h
      · cases h
      · rename_i high hminor
        split at h
        · cases h
        · rename_i hfeatures
          cases h
          refine ⟨?_, rfl, rfl, hminor, rfl, rfl, rfl, rfl, rfl⟩
          simp_all [HandshakeHello.acceptable, Except.isOk, Except.toBool]

theorem exists_welcome (h : hello.acceptable = true) :
    ∃ welcome, negotiate hello side = .welcome welcome := by
  simp only [HandshakeHello.acceptable, Bool.and_eq_true] at h
  obtain ⟨⟨⟨⟨⟨hrole, hdevice⟩, hboot⟩, hnonce⟩, hminor⟩, hfeatures⟩ := h
  unfold negotiate
  rw [hrole, hdevice, hboot, hnonce]
  cases hnegotiated :
      negotiateMinor hello.protocolMajor hello.protocolMinorMin hello.protocolMinorMax with
  | error reason => simp [hnegotiated, Except.isOk, Except.toBool] at hminor
  | ok high =>
    have hmissing :
        (hello.requiredFeatures.any fun feature => !defaultFeatures.contains feature) = false := by
      simpa using hfeatures
    simp only [hmissing, Bool.not_true, Bool.or_self, Bool.false_eq_true, if_false]
    exact ⟨_, rfl⟩

/-- A welcome that passes the checks is taken if its heartbeat bounds are in order; otherwise the
client panics. -/
theorem validate_compatible (h : Compatible hello welcome) :
    (HandshakeOutcome.validate debugText hello (.welcome welcome)).isSome =
        decide (welcome.heartbeatMinMs ≤ welcome.heartbeatMaxMs) ∧
      ∀ result, HandshakeOutcome.validate debugText hello (.welcome welcome) = some result →
        ∃ outcome, result = .ok outcome ∧ outcome.session.protocolMinor = welcome.protocolMinor ∧
          outcome.session.negotiatedFeatures =
            welcome.supportedFeatures.filter hello.supportedFeatures.contains := by
  unfold HandshakeOutcome.validate
  dsimp only
  rw [h.1, h.2.1, h.2.2]
  by_cases hbounds : welcome.heartbeatMinMs ≤ welcome.heartbeatMaxMs
  · simp [clamp?, hbounds]
  · simp [clamp?, hbounds]

theorem validate_incompatible (h : ¬Compatible hello welcome) :
    ∃ error, HandshakeOutcome.validate debugText hello (.welcome welcome) = some (.error error) := by
  unfold HandshakeOutcome.validate
  dsimp only
  split
  · exact ⟨_, rfl⟩
  · rename_i hnonce
    split
    · exact ⟨_, rfl⟩
    · rename_i hcompatible
      split
      · exact ⟨_, rfl⟩
      · rename_i hfeature
        exact absurd ⟨not_not.mp hnonce, Bool.eq_false_iff.mpr hcompatible, hfeature⟩ h

/-- **Handshake agreement** holds of a hello and a response exactly when a hello the server takes
speaks of session identifiers, and the response does not order the heartbeat bounds backwards. -/
theorem agreement_iff (debugText : String → String) (hello : HandshakeHello) (side : BrainstemSide)
    (response : HandshakeResponse) :
    Agreement debugText hello side response ↔
      (hello.acceptable = true → .sessionIds ∈ hello.supportedFeatures) ∧
        ∀ welcome, response = .welcome welcome → Compatible hello welcome →
          welcome.heartbeatMinMs ≤ welcome.heartbeatMaxMs := by
  constructor
  · intro h
    constructor
    · intro hacceptable
      obtain ⟨welcome, hwelcome⟩ := exists_welcome hacceptable
      obtain ⟨outcome, houtcome, -⟩ := h.welcomed welcome hwelcome
      by_cases hcompatible : Compatible hello welcome
      · have hrequired := (negotiate_welcome hwelcome).2.2.2.2.2.2.1
        simpa [unsupportedFeature, hrequired] using hcompatible.2.2
      · obtain ⟨error, herror⟩ := validate_incompatible hcompatible
        cases herror.symm.trans houtcome
    · rintro welcome rfl hcompatible
      have htotal := h.total
      rw [(validate_compatible hcompatible).1] at htotal
      exact of_decide_eq_true htotal
  · intro h
    constructor
    · intro welcome hwelcome
      obtain ⟨hacceptable, hrole, hnonce, hminor, hmajor, hsupported, hrequired, hmin, hmax⟩ :=
        negotiate_welcome hwelcome
      obtain ⟨hclient, hlow, hhigh, hlowest, hhighest⟩ := negotiateMinor_ok hminor
      have hcompatible : Compatible hello welcome := by
        refine ⟨hnonce, ?_, ?_⟩
        · simp [incompatible, hrole, hmajor, hclient, UInt16.not_lt.mpr hlow,
            UInt16.not_lt.mpr hhigh]
        · simpa [unsupportedFeature, hrequired] using h.1 hacceptable
      obtain ⟨hsome, hresult⟩ := @validate_compatible debugText _ _ hcompatible
      have hbounds : welcome.heartbeatMinMs ≤ welcome.heartbeatMaxMs := by
        rw [hmin, hmax]
        decide
      rw [decide_eq_true hbounds] at hsome
      obtain ⟨result, hresult'⟩ := Option.isSome_iff_exists.mp hsome
      obtain ⟨outcome, rfl, hprotocol, hnegotiated⟩ := hresult result hresult'
      refine ⟨outcome, hresult', ?_⟩
      rw [hprotocol, hnegotiated, hsupported]
      refine ⟨hlow, hhigh, hlowest, hhighest, ?_⟩
      intro feature hfeature
      simpa [and_comm] using List.mem_filter.mp hfeature
    · intro reject _
      rfl
    · cases response with
      | reject reject => rfl
      | welcome welcome =>
        by_cases hcompatible : Compatible hello welcome
        · rw [(validate_compatible hcompatible).1]
          exact decide_eq_true (h.2 welcome rfl hcompatible)
        · obtain ⟨error, herror⟩ := @validate_incompatible debugText _ _ hcompatible
          rw [herror]
          rfl
    · intro outcome houtcome
      cases response with
      | reject reject => cases houtcome
      | welcome welcome =>
        by_cases hcompatible : Compatible hello welcome
        · refine ⟨welcome, rfl, hcompatible.1, ?_⟩
          have hterms := hcompatible.2.1
          simp only [incompatible, Bool.or_eq_false_iff, decide_eq_false_iff_not, not_not] at hterms
          exact hterms.1.1.1
        · obtain ⟨error, herror⟩ := @validate_incompatible debugText _ _ hcompatible
          cases herror.symm.trans houtcome

/-- A hello that lists no features is taken by the server and then refused by the client. -/
def bareHello : HandshakeHello where
  role := .motherbrain
  deviceId := "motherbrain-primary"
  bootId := "boot-1"
  handshakeNonce := "nonce-1"
  protocolMajor := 1
  protocolMinorMin := 0
  protocolMinorMax := 0
  preferredHeartbeatMs := 500
  software := { softwareName := "pete-motherbrain", buildId := "development" }

/-- A server as the simulator sets it up. -/
def plainSide : BrainstemSide where
  hasher := fun _ => 0
  brainstemDeviceId := "brain"
  brainstemBootId := "boot"
  capabilities := ⟨"create1", "differential", [], [], [], [], [], none, {}⟩
  safetySnapshot := ⟨false, false, false, false, "idle"⟩
  currentEventNextSeq := 1
  software := { softwareName := "test", buildId := "x" }
  sessionSerial := 1

theorem bareHello_disagrees :
    ¬∀ (debugText : String → String) (hello : HandshakeHello) (side : BrainstemSide)
      (response : HandshakeResponse), Agreement debugText hello side response := by
  intro h
  have hagree := h id bareHello plainSide (negotiate bareHello plainSide)
  obtain ⟨welcome, hwelcome⟩ : ∃ welcome, negotiate bareHello plainSide = .welcome welcome :=
    exists_welcome (by decide)
  obtain ⟨outcome, houtcome, -⟩ := hagree.welcomed welcome hwelcome
  have hrequired := (negotiate_welcome hwelcome).2.2.2.2.2.2.1
  have hincompatible : ¬Compatible bareHello welcome := by
    intro hcompatible
    simp [Compatible, unsupportedFeature, hrequired, bareHello] at hcompatible
  obtain ⟨error, herror⟩ := validate_incompatible hincompatible
  cases herror.symm.trans houtcome

end Agreement

end Netherwick.Cockpit
