import Netherwick.Lib.Bytes

/-! # Session handshakes

The brainstem remembers the last session it opened. A hello is recognised by a hash of its identity,
and the generations of new sessions are counted in 32 bits. -/

namespace Netherwick.Brainstem

open Netherwick.Lib

abbrev Text : Type := List UInt8

def utf8 (text : String) : Text := text.toUTF8.data.toList

inductive EndpointRole
  | brainstem | motherbrain | forebrain | operator | simulator | serviceTool
  deriving DecidableEq, Repr

/-- The discriminant. -/
def EndpointRole.code : EndpointRole → UInt8
  | brainstem => 0
  | motherbrain => 1
  | forebrain => 2
  | operator => 3
  | simulator => 4
  | serviceTool => 5

inductive SessionPurpose
  | control | diagnostic
  deriving DecidableEq, Repr

def SessionPurpose.code : SessionPurpose → UInt8
  | control => 0
  | diagnostic => 1

namespace Session

inductive RejectReason
  | wrongRole | protocolMajorMismatch | protocolMinorIncompatible | missingRequiredFeature
  | invalidIdentity | busy | internalError
  deriving DecidableEq, Repr

def maxIdLen : Nat := 64
def protocolMajor : UInt16 := 1
def protocolMinorMin : UInt16 := 0
def protocolMinorMax : UInt16 := 0

structure Hello where
  role : EndpointRole
  sessionPurpose : SessionPurpose := .control
  deviceId : Text
  bootId : Text
  handshakeNonce : Text
  protocolMajor : UInt16
  protocolMinorMin : UInt16
  protocolMinorMax : UInt16
  supportedFeatures : List Text := []
  requiredFeatures : List Text := []
  preferredHeartbeatMs : UInt32
  deriving DecidableEq, Repr

structure AcceptedHello where
  generation : UInt32
  sessionHash : UInt32
  sessionId : Text
  negotiatedMinor : UInt16
  deriving DecidableEq, Repr

/-- What is kept from one handshake to the next. -/
structure Store where
  generation : UInt32 := 0
  lastHelloHash : UInt32 := 0
  lastSessionHash : UInt32 := 0
  lastGeneration : UInt32 := 0
  deriving DecidableEq, Repr

section Checks

/-- `brainstem_accepts_client_role`. -/
def acceptsClientRole (role : EndpointRole) : Bool :=
  !(role matches .brainstem | .simulator)

def negotiateMinor (clientMajor clientMinorMin clientMinorMax : UInt16) :
    Except RejectReason UInt16 :=
  if clientMajor ≠ protocolMajor then .error .protocolMajorMismatch
  else
    let low := if clientMinorMin > protocolMinorMin then clientMinorMin else protocolMinorMin
    let high := if clientMinorMax < protocolMinorMax then clientMinorMax else protocolMinorMax
    if low > high then .error .protocolMinorIncompatible else .ok high

def isTokenByte (byte : UInt8) : Bool :=
  (48 ≤ byte && byte ≤ 57) || (65 ≤ byte && byte ≤ 90) || (97 ≤ byte && byte ≤ 122)
    || byte = 45 || byte = 95 || byte = 46

/-- `valid_identity_token`. -/
def validIdentityToken (value : Text) (maxLen : Nat) : Bool :=
  !value.isEmpty && value.length ≤ maxLen && value.all isTokenByte

def validToken (value : Text) : Bool := validIdentityToken value maxIdLen

def featureSessionIds : Text := utf8 "session_ids"

def knownFeatures : List Text :=
  [featureSessionIds, utf8 "event_cursor", utf8 "heartbeat", utf8 "transport_failover"]

/-- The checks of `validate`, in their order. -/
def checkHello (hello : Hello) : Except RejectReason UInt16 := do
  if !acceptsClientRole hello.role then .error .wrongRole
  if !validToken hello.deviceId || !validToken hello.bootId || !validToken hello.handshakeNonce then
    .error .invalidIdentity
  let negotiatedMinor ←
    negotiateMinor hello.protocolMajor hello.protocolMinorMin hello.protocolMinorMax
  if !hello.supportedFeatures.contains featureSessionIds then .error .missingRequiredFeature
  if !hello.requiredFeatures.all knownFeatures.contains then .error .missingRequiredFeature
  return negotiatedMinor

end Checks

section Tokens

def hexDigit (value : UInt32) : UInt8 :=
  let value := value.toUInt8
  if value < 10 then 48 + value else 87 + value

/-- Eight lower-case digits. -/
def hex8 (value : UInt32) : Text :=
  ([28, 24, 20, 16, 12, 8, 4, 0] : List UInt32).map fun shift => hexDigit ((value >>> shift) &&& 15)

def sessionToken (hash generation : UInt32) : Text :=
  utf8 "sess-" ++ hex8 hash ++ utf8 "-" ++ hex8 generation

def tokenHash (token : Text) : UInt32 := fnvToken token

theorem tokenHash_ne_zero (token : Text) : tokenHash token ≠ 0 := max_one_ne_zero _

def leBytes (value : UInt32) : List UInt8 :=
  [value.toUInt8, (value >>> 8).toUInt8, (value >>> 16).toUInt8, (value >>> 24).toUInt8]

end Tokens

section Validate

variable (brainstemDevice brainstemBoot : Text)

/-- The fields that say who sends a hello. -/
structure Identity where
  role : EndpointRole
  sessionPurpose : SessionPurpose
  deviceId : Text
  bootId : Text
  handshakeNonce : Text
  deriving DecidableEq

def Hello.identity (hello : Hello) : Identity :=
  ⟨hello.role, hello.sessionPurpose, hello.deviceId, hello.bootId, hello.handshakeNonce⟩

def identityHash (identity : Identity) : UInt32 :=
  [identity.deviceId, identity.bootId, brainstemDevice, brainstemBoot,
    identity.handshakeNonce].foldl fnv
      (fnv fnvBasis [identity.role.code, identity.sessionPurpose.code])

def helloHash (hello : Hello) : UInt32 :=
  max (identityHash brainstemDevice brainstemBoot hello.identity) 1

def newSessionHash (hello : Hello) (generation : UInt32) : UInt32 :=
  fnv (identityHash brainstemDevice brainstemBoot hello.identity) (leBytes generation)

/-- The generation that follows a counter value. -/
def nextGeneration (generation : UInt32) : UInt32 := max (generation + 1) 1

def validate (hello : Hello) (store : Store) : Except RejectReason AcceptedHello × Store :=
  match checkHello hello with
  | .error reason => (.error reason, store)
  | .ok negotiatedMinor =>
    let helloHash := helloHash brainstemDevice brainstemBoot hello
    if store.lastHelloHash = helloHash ∧ store.lastGeneration ≠ 0 then
      (.ok ⟨store.lastGeneration, store.lastSessionHash,
        sessionToken store.lastSessionHash store.lastGeneration, negotiatedMinor⟩, store)
    else
      let generation := nextGeneration store.generation
      let hash := newSessionHash brainstemDevice brainstemBoot hello generation
      (.ok ⟨generation, max hash 1, sessionToken hash generation, negotiatedMinor⟩,
        { generation := store.generation + 1, lastHelloHash := helloHash
          lastSessionHash := max hash 1, lastGeneration := generation })

end Validate

end Session

end Netherwick.Brainstem
