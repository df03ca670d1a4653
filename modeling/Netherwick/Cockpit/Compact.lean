import Netherwick.Cockpit.Wire
import Netherwick.Lib.Text

/-! # Compact replies

How a client reads the line that answers a compact request. A line is what is left of it after its
end and the white space around it are taken off. -/

namespace Netherwick.Cockpit

open Netherwick.Lib

/-- The JSON decoder: a handshake frame, and what it says of a name that is no variant. -/
structure Json where
  handshakeResponse : List Char → Except String HandshakeResponse
  unknownVariant : List Char → String

def badResponse {α : Type} (response : List Char) : Except CockpitError α :=
  .error (.badResponse (String.ofList response))

def compactRejectionReasons : List String :=
  ["busy", "charging_busy", "stale_sequence", "unsupported", "invalid_session", "session_required",
    "invalid_control_lease", "control_lease_required", "invalid_service_lease",
    "service_authorization_required", "service_operation_disabled"]

def isCompactRejectionReason (reason : List Char) : Bool :=
  compactRejectionReasons.any fun known => known.toList == reason

def expectOk (seq : UInt32) (response : List Char) : Except CockpitError Unit :=
  match Text.asciiWords response with
  | verdict :: number :: rest =>
    if Text.parseU32 number ≠ some seq then badResponse response
    else if verdict = "OK".toList then .ok ()
    else if verdict = "ERR".toList then
      match rest with
      | reason :: _ =>
        if isCompactRejectionReason reason then .error (.rejected seq (String.ofList reason))
        else badResponse response
      | [] => badResponse response
    else badResponse response
  | _ => badResponse response

theorem expectOk_of_words {seq : UInt32} {response : List Char} {rest : List (List Char)}
    (h : Text.asciiWords response = "OK".toList :: Text.decimal seq.toNat :: rest) :
    expectOk seq response = .ok () := by
  unfold expectOk
  rw [h]
  simp only [Text.parseU32_decimal, ne_eq, not_true_eq_false, if_false, if_true]

theorem expectOk_of_unknown_reason {seq : UInt32} {response reason : List Char}
    {rest : List (List Char)}
    (h : Text.asciiWords response = "ERR".toList :: Text.decimal seq.toNat :: reason :: rest)
    (hreason : isCompactRejectionReason reason = false) :
    expectOk seq response = badResponse response := by
  unfold expectOk
  rw [h]
  simp only [Text.parseU32_decimal, ne_eq, not_true_eq_false, if_false]
  rw [if_neg (by decide : "ERR".toList ≠ "OK".toList), if_pos trivial, hreason]
  rfl

section Fields

def numberFor (line : List Char) (key : String) : Option UInt32 :=
  (Text.valueFor line key.toList).bind Text.parseU32

def csvFor (line : List Char) (key : String) : List String :=
  ((((Text.valueFor line key.toList).getD []).splitOn ',').filter fun value =>
    !value.isEmpty).map String.ofList

def wordFor (line : List Char) (key : String) : Option String :=
  (Text.valueFor line key.toList).map String.ofList

/-- A field that the reply must have. -/
def required {α : Type} (response : List Char) : Option α → Except CockpitError α
  | some value => .ok value
  | none => badResponse response

end Fields

section Capabilities

def CockpitLimits.setItem (limits : CockpitLimits) (item : List Char) : CockpitLimits :=
  match Text.splitOnce ':' item with
  | none => limits
  | some (key, value) =>
    if key = "max_linear_mm_s".toList then
      { limits with maxLinearMmS := (Text.parseI16 value).getD limits.maxLinearMmS }
    else if key = "max_angular_mrad_s".toList then
      { limits with maxAngularMradS := (Text.parseI16 value).getD limits.maxAngularMradS }
    else if key = "min_ttl_ms".toList then
      { limits with minTtlMs := (Text.parseU32 value).getD limits.minTtlMs }
    else if key = "max_ttl_ms".toList then
      { limits with maxTtlMs := (Text.parseU32 value).getD limits.maxTtlMs }
    else limits

def parseCompactLimits (line : List Char) : CockpitLimits :=
  match Text.valueFor line "limits".toList with
  | none => {}
  | some raw => (raw.splitOn ',').foldl CockpitLimits.setItem {}

def parseCapabilities (seq : UInt32) (response : List Char) :
    Except CockpitError CockpitCapabilities := do
  expectOk seq response
  let rest ← required response (Text.stripPrefix
    ("OK ".toList ++ Text.decimal seq.toNat ++ " CAPABILITIES ".toList) response)
  pure {
    bodyKind := (wordFor rest "body_kind").getD ""
    drive := (wordFor rest "drive").getD ""
    verbs := csvFor rest "verbs"
    sensors := csvFor rest "sensors"
    outputs := csvFor rest "outputs"
    safety := csvFor rest "safety"
    events := csvFor rest "events"
    independentWatchdog :=
      match wordFor rest "independent_watchdog" with
      | some "true" => some true
      | some "false" => some false
      | _ => none
    limits := parseCompactLimits rest }

end Capabilities

section Events

/-- One event between two bars: `seq:kind:a,b,c`. -/
def parseEvent (response chunk : List Char) : Except CockpitError CockpitEvent := do
  let (seqText, tail) ← required response (Text.splitOnce ':' (Text.trim chunk))
  let (kindText, fields) ← required response (Text.splitOnce ':' tail)
  let eventSeq ← required response (Text.parseU32 seqText)
  match fields.splitOn ',' with
  | [a, b, c] =>
    let a ← required response (Text.parseU32 a)
    let b ← required response (Text.parseU32 b)
    let c ← required response (Text.parseU32 c)
    pure { seq := eventSeq, kind := .ofText (String.ofList kindText), a := a, b := b, c := c }
  | _ => badResponse response

def parseEvents (seq sinceSeq : UInt32) (response : List Char) :
    Except CockpitError EventBatch := do
  expectOk seq response
  let rest ← required response (Text.stripPrefix
    ("OK ".toList ++ Text.decimal seq.toNat ++ " EVENTS ".toList) response)
  let chunks := rest.splitOn '|'
  let header := chunks.headD rest
  let events ← chunks.tail.mapM (parseEvent response)
  if (numberFor header "count").any fun count => count.toNat ≠ events.length then
    badResponse response
  else
    pure {
      sinceSeq := sinceSeq
      oldestSeq := (numberFor header "oldest").getD 0
      nextSeq := (numberFor header "next").getD sinceSeq
      droppedBeforeSeq := (numberFor header "dropped_before").getD 0
      events := events }

end Events

section Leases

variable (json : Json)

/-- `serde_json::from_value` of a name. -/
def variant {α : Type} (names : List (String × α)) (text : Option (List Char)) :
    Except CockpitError α :=
  let name := text.getD "unknown".toList
  match names.find? fun known => known.1.toList == name with
  | some known => .ok known.2
  | none => .error (.json (json.unknownVariant name))

def endpointRoleNames : List (String × Netherwick.Brainstem.EndpointRole) :=
  [("brainstem", .brainstem), ("motherbrain", .motherbrain), ("forebrain", .forebrain),
    ("operator", .operator), ("simulator", .simulator), ("service_tool", .serviceTool)]

def controlAuthorityNames : List (String × ControlAuthority) :=
  [("motherbrain", .motherbrain), ("forebrain_recovery", .forebrainRecovery),
    ("operator_debug", .operatorDebug)]

def serviceScopeNames : List (String × ServiceScope) :=
  [("bootsel", .bootsel), ("restart_create", .restartCreate),
    ("reset_motherbrain", .resetMotherbrain)]

def parseControlLease (response : List Char) : Except CockpitError ControlLease := do
  let ownerRole ← variant json endpointRoleNames (Text.valueFor response "owner_role".toList)
  let authority ← variant json controlAuthorityNames (Text.valueFor response "authority".toList)
  let leaseId ← required response (wordFor response "lease_id")
  let sessionId ← required response (wordFor response "session_id")
  let ttlMs ← required response (numberFor response "ttl_ms")
  let generation ← required response (numberFor response "generation")
  pure {
    leaseId := leaseId, sessionId := sessionId, ownerRole := ownerRole, authority := authority
    ttlMs := ttlMs, generation := generation }

def parseServiceLease (response : List Char) : Except CockpitError ServiceLease := do
  let leaseId ← required response (wordFor response "lease_id")
  let sessionId ← required response (wordFor response "session_id")
  let ownerRole ← variant json endpointRoleNames (Text.valueFor response "owner_role".toList)
  let scope ← variant json serviceScopeNames (Text.valueFor response "scope".toList)
  let ttlMs ← required response (numberFor response "ttl_ms")
  let generation ← required response (numberFor response "generation")
  pure {
    leaseId := leaseId, sessionId := sessionId, ownerRole := ownerRole, scope := scope
    ttlMs := ttlMs, generation := generation }

def parseRegistered (response : List Char) : Except CockpitError NetworkEndpointRegistered := do
  let sessionId ← required response (wordFor response "session_id")
  let fqdn ← required response (wordFor response "fqdn")
  let address ← required response (wordFor response "address")
  let ttlSeconds ← required response (numberFor response "ttl")
  let registrationGeneration ← required response (numberFor response "generation")
  pure {
    sessionId := sessionId, fqdn := fqdn, address := address, ttlSeconds := ttlSeconds
    registrationGeneration := registrationGeneration }

def parseCompactCockpitResponse (seq : UInt32) (request : CockpitRequest)
    (response : List Char) : Except CockpitError CockpitResponse :=
  match request with
  | .getStatus => do
      expectOk seq response
      pure (.status { raw := String.ofList response })
  | .getCapabilities => do
      let capabilities ← parseCapabilities seq response
      pure (.capabilities capabilities)
  | .getEvents sinceSeq => do
      let batch ← parseEvents seq sinceSeq response
      pure (.events batch)
  | .registerNetworkEndpoint _ => do
      expectOk seq response
      let registered ← parseRegistered response
      pure (.networkEndpointRegistered registered)
  | .acquireControlLease .. => do
      expectOk seq response
      let lease ← parseControlLease json response
      pure (.controlLeaseGranted lease)
  | .acquireServiceLease .. => do
      expectOk seq response
      let lease ← parseServiceLease json response
      pure (.serviceLeaseGranted lease)
  | _ => do
      expectOk seq response
      pure .accepted

theorem parse_of_expectOk_error {seq : UInt32} {response : List Char} {error : CockpitError}
    (h : expectOk seq response = .error error) (request : CockpitRequest) :
    parseCompactCockpitResponse json seq request response = .error error := by
  unfold parseCompactCockpitResponse
  split
  · rw [h]; rfl
  · unfold parseCapabilities; rw [h]; rfl
  · unfold parseEvents; rw [h]; rfl
  all_goals rw [h]; rfl

end Leases

section Handshake

def maxCompactHandshakeFrameLen : Nat := 4096

def decodeCompactResponse (json : Json) (frame : List Char) :
    Except CockpitError HandshakeResponse :=
  let kind := (Text.asciiWords frame).headD []
  if kind ≠ "WELCOME".toList ∧ kind ≠ "REJECT".toList then
    badResponse "expected WELCOME or REJECT frame".toList
  else if (String.ofList frame).utf8ByteSize > maxCompactHandshakeFrameLen then
    .error (.frameTooLarge maxCompactHandshakeFrameLen)
  else
    match Text.stripPrefix (kind ++ [' ']) frame with
    | some payload => (json.handshakeResponse payload).mapError CockpitError.json
    | none => badResponse ("expected ".toList ++ kind ++ " frame".toList)

end Handshake

section Read

def defaultUartMaxResponseLen : Nat := maxCompactHandshakeFrameLen

/-- `read_line_response`, of a line of ASCII characters. -/
def readLineResponse (text : List Char) : Except CockpitError (List Char) :=
  let line := Text.rawLine text
  if line.length > defaultUartMaxResponseLen then
    badResponse "response line exceeded maximum length".toList
  else .ok (Text.trim line)

theorem readLineResponse_of_line {line : List Char} (hline : '\n' ∉ line) (hreturn : '\r' ∉ line)
    (hhead : ∀ c ∈ line.head?, isWhiteSpace c = false)
    (hlast : ∀ c ∈ line.getLast?, isWhiteSpace c = false)
    (hlength : line.length ≤ defaultUartMaxResponseLen) :
    readLineResponse (line ++ ['\n']) = .ok line := by
  unfold readLineResponse
  rw [Text.rawLine_append hline hreturn, if_neg (by omega), Text.trim_of_edges hhead hlast]

end Read

end Netherwick.Cockpit
