import Netherwick.Brainstem.Dhcp
import Netherwick.Lib.Bytes

/-! # Name and lease requests

The readers of DNS questions and DHCP options follow the length bytes of a packet. A reader has no
result where an access is out of bounds or its rounds do not suffice. -/

namespace Netherwick.Brainstem.Discovery

open Netherwick.Lib.Bytes

section Dns

def apIpOctets : List UInt8 := [192, 168, 4, 1]

def peteLabel : List UInt8 := [4, 0x70, 0x65, 0x74, 0x65]

def internalLabel : List UInt8 := [8, 0x69, 0x6e, 0x74, 0x65, 0x72, 0x6e, 0x61, 0x6c]

def mdnsName : List UInt8 := peteLabel ++ [5, 0x6c, 0x6f, 0x63, 0x61, 0x6c, 0]

def peteInternal : List UInt8 := peteLabel ++ internalLabel ++ [0]

def brainstemInternal : List UInt8 :=
  [9, 0x62, 0x72, 0x61, 0x69, 0x6e, 0x73, 0x74, 0x65, 0x6d] ++ peteInternal

def gatewayInternal : List UInt8 := [7, 0x67, 0x61, 0x74, 0x65, 0x77, 0x61, 0x79] ++ peteInternal

def motherbrainInternal : List UInt8 :=
  [11, 0x6d, 0x6f, 0x74, 0x68, 0x65, 0x72, 0x62, 0x72, 0x61, 0x69, 0x6e] ++ peteInternal

def isAsciiAlphabetic (byte : UInt8) : Bool :=
  (65 ≤ byte && byte ≤ 90) || (97 ≤ byte && byte ≤ 122)

def toAsciiLowercase (byte : UInt8) : UInt8 := if 65 ≤ byte && byte ≤ 90 then byte + 32 else byte

def dnsByteEq (left right : UInt8) : Bool :=
  if isAsciiAlphabetic left && isAsciiAlphabetic right then
    toAsciiLowercase left == toAsciiLowercase right
  else left == right

def dnsNameEq (left right : List UInt8) : Bool :=
  left.length == right.length && (left.zip right).all fun pair => dnsByteEq pair.1 pair.2

/-- The address of a name; the registry knows that of the motherbrain, if there is one. -/
def dnsAnswerIp (motherbrainIp : Option (Vector UInt8 4)) (name : List UInt8) :
    Option (List UInt8) :=
  if dnsNameEq name peteInternal || dnsNameEq name brainstemInternal
      || dnsNameEq name gatewayInternal || dnsNameEq name mdnsName then some apIpOctets
  else if dnsNameEq name motherbrainInternal then motherbrainIp.map Vector.toList
  else none

structure DnsQuestion where
  nameEnd : Nat
  stop : Nat
  qtype : Nat
  qclass : Nat
  deriving DecidableEq, Repr

/-- The loop over the labels of a name; it gives the place after the name, if there is a name. -/
def walkLabels : Nat → List UInt8 → Nat → Option (Option Nat)
  | 0, _, _ => none
  | rounds + 1, packet, i =>
    match packet[i]? with
    | none => some none
    | some len =>
      if len &&& 0xc0 ≠ 0 then some none
      else if len = 0 then some (some (i + 1))
      else if i + 1 + len.toNat > packet.length then some none
      else walkLabels rounds packet (i + 1 + len.toNat)

def parseDnsQuestion (packet : List UInt8) : Option (Option DnsQuestion) := do
  if packet.length < 17 then return none
  if (← index packet 2) &&& 0x80 ≠ 0 then return none
  if word (← index packet 4) (← index packet 5) = 0 then return none
  match ← walkLabels (packet.length + 1) packet 12 with
  | none => return none
  | some i =>
    if i + 4 > packet.length then return none
    return some ⟨i, i + 4, word (← index packet i) (← index packet (i + 1)),
      word (← index packet (i + 2)) (← index packet (i + 3))⟩

/-- `build_dns_reply`, in a buffer with any content. -/
def buildDnsReply (motherbrainIp : Option (Vector UInt8 4)) (query : List UInt8)
    (response : Vector UInt8 512) : Option (Option (List UInt8)) := do
  match ← parseDnsQuestion query with
  | none => return none
  | some question =>
    match dnsAnswerIp motherbrainIp (← slice query 12 question.nameEnd) with
    | none => return none
    | some answerIp =>
      if question.qtype ≠ 1 ∧ question.qtype ≠ 255 then return none
      if question.qclass ≠ 1 ∧ question.qclass ≠ 255 then return none
      let response ← write response.toList 0 (← slice query 0 question.stop)
      let flags ← index query 2
      let response ← write response 2 [0x84 ||| (flags &&& 0x01), 0, 0, 1, 0, 1, 0, 0, 0, 0]
      let answer := [0xc0, 0x0c, 0, 1, 0, 1, 0, 0, 0, 0x3c, 0, 4] ++ answerIp
      if question.stop + answer.length > response.length then return none
      let response ← write response question.stop answer
      some <$> slice response 0 (question.stop + answer.length)

end Dns

section Dhcp

def walkOptions : Nat → List UInt8 → UInt8 → Nat → Option (Option (List UInt8))
  | 0, _, _, _ => none
  | rounds + 1, packet, wanted, i =>
    if i < packet.length then do
      let option ← index packet i
      if option = 0 then walkOptions rounds packet wanted (i + 1)
      else if option = 255 then return none
      else if i + 1 ≥ packet.length then return none
      else
        let len ← index packet (i + 1)
        if i + 2 + len.toNat > packet.length then return none
        else if option = wanted then some <$> slice packet (i + 2) (i + 2 + len.toNat)
        else walkOptions rounds packet wanted (i + 2 + len.toNat)
    else some none

def dhcpOption (packet : List UInt8) (wanted : UInt8) : Option (Option (List UInt8)) := do
  if packet.length < 240 then return none
  if (← slice packet 236 240) ≠ [99, 130, 83, 99] then return none
  walkOptions (packet.length + 1) packet wanted 240

/-- `dhcp_message_type`: the first byte of the value is read before its length is looked at. -/
def dhcpMessageType (packet : List UInt8) : Option (Option UInt8) := do
  match ← dhcpOption packet 53 with
  | none => return none
  | some value =>
    let first ← index value 0
    return if value.length = 1 then some first else none

/-- `DhcpRequest::parse`. -/
def parseDhcpRequest (packet : List UInt8) : Option (Option DhcpRequest) := do
  if packet.length < 240 then return none
  if (← index packet 0) ≠ 1 then return none
  if (← index packet 1) ≠ 1 then return none
  if (← index packet 2) < 6 then return none
  let hardwareAddress ← slice packet 28 34
  let clientIdentifier ← dhcpOption packet 61
  let _requestedHostname ← dhcpOption packet 12
  match ← dhcpMessageType packet with
  | none => return none
  | some messageType =>
    let client := DhcpClient.new (Vector.ofFn fun i => hardwareAddress.getD i.val 0)
    return some ⟨messageType, client.withMetadata (clientIdentifier.getD [])⟩

end Dhcp

inductive IsName : List UInt8 → Prop
  | root : IsName [0]
  | label {len : UInt8} {text name : List UInt8} : len ≠ 0 → len &&& 0xc0 = 0 →
      text.length = len.toNat → IsName name → IsName (len :: (text ++ name))

/-- The reply has the name, the type and the class of the question, and fits the buffer. -/
structure EchoesQuestion (query reply : List UInt8) : Prop where
  fits : reply.length ≤ 512
  question : ∃ header name fields more front answer, query = header ++ (name ++ fields) ++ more ∧
    header.length = 12 ∧ IsName name ∧ fields.length = 4 ∧
    reply = front ++ (name ++ fields) ++ answer ∧ front.length = 12

/-- The first of the wanted options, past padding and other options, has an empty value. -/
inductive EmptyOption (wanted : UInt8) : List UInt8 → Prop
  | found {more : List UInt8} : EmptyOption wanted (wanted :: 0 :: more)
  | pad {more : List UInt8} : EmptyOption wanted more → EmptyOption wanted (0 :: more)
  | other {option len : UInt8} {value more : List UInt8} : option ≠ 0 → option ≠ 255 →
      option ≠ wanted → value.length = len.toNat → EmptyOption wanted more →
      EmptyOption wanted (option :: len :: (value ++ more))

/-- A lease request whose message type is empty. -/
structure Untyped (packet : List UInt8) : Prop where
  size : 240 ≤ packet.length
  operation : byteAt packet 0 = 1 ∧ byteAt packet 1 = 1 ∧ 6 ≤ byteAt packet 2
  cookie : span packet 236 240 = [99, 130, 83, 99]
  messageType : EmptyOption 53 (packet.drop 240)

/-- The readers end within bounds for a name request and a lease request, and a reply echoes the
question. -/
structure Total (motherbrainIp : Option (Vector UInt8 4)) (query : List UInt8)
    (response : Vector UInt8 512) (packet : List UInt8) : Prop where
  dns : ∃ reply, buildDnsReply motherbrainIp query response = some reply ∧
    ∀ bytes, reply = some bytes → EchoesQuestion query bytes
  options : ∀ wanted, (dhcpOption packet wanted).isSome = true
  dhcp : (parseDhcpRequest packet).isSome = true

section Names

variable {packet query name : List UInt8} {motherbrainIp : Option (Vector UInt8 4)}

theorem walkLabels_name {rounds i : Nat} (hi : i ≤ packet.length)
    (h : packet.length < i + rounds) :
    ∃ found, walkLabels rounds packet i = some found ∧
      ∀ stop, found = some stop → i < stop ∧ stop ≤ packet.length ∧ IsName (span packet i stop) := by
  induction rounds generalizing i with
  | zero => omega
  | succ rounds ih =>
    rw [walkLabels]
    cases hbyte : packet[i]? with
    | none => exact ⟨none, rfl, fun _ h => by cases h⟩
    | some len =>
      have hlt := (List.getElem?_eq_some_iff.mp hbyte).1
      simp only []
      by_cases hflags : len &&& 0xc0 ≠ 0
      · exact ⟨none, if_pos hflags, fun _ h => by cases h⟩
      rw [if_neg hflags]
      by_cases hzero : len = 0
      · rw [if_pos hzero]
        refine ⟨some (i + 1), rfl, fun stop hstop => ?_⟩
        cases hstop
        refine ⟨Nat.lt_succ_self i, hlt, ?_⟩
        rw [span_cons hbyte (Nat.lt_succ_self i), hzero]
        have hnil : span packet (i + 1) (i + 1) = [] := by
          rw [List.eq_nil_iff_length_eq_zero, length_span (by omega), Nat.sub_self]
        rw [hnil]
        exact .root
      rw [if_neg hzero]
      by_cases hroom : i + 1 + len.toNat > packet.length
      · exact ⟨none, if_pos hroom, fun _ h => by cases h⟩
      rw [if_neg hroom]
      obtain ⟨found, hfound, hname⟩ := @ih (i + 1 + len.toNat) (by omega) (by omega)
      refine ⟨found, hfound, fun stop hstop => ?_⟩
      obtain ⟨hlater, hend, hrest⟩ := hname stop hstop
      refine ⟨by omega, hend, ?_⟩
      rw [span_cons hbyte (by omega),
        ← @span_append_span packet (i + 1 + len.toNat) (i + 1) stop (by omega) (by omega)]
      refine .label hzero (not_not.mp hflags) ?_ hrest
      rw [length_span (by omega)]
      omega

theorem parseDnsQuestion_name (query : List UInt8) :
    ∃ question, parseDnsQuestion query = some question ∧ ∀ found, question = some found →
      found.stop = found.nameEnd + 4 ∧ 12 < found.nameEnd ∧ found.stop ≤ query.length ∧
      IsName (span query 12 found.nameEnd) := by
  have hnone : ∀ found : DnsQuestion, none = some found → found.stop = found.nameEnd + 4 ∧
      12 < found.nameEnd ∧ found.stop ≤ query.length ∧ IsName (span query 12 found.nameEnd) :=
    fun _ h => by cases h
  unfold parseDnsQuestion
  simp only [Option.bind_eq_bind, Option.pure_def]
  by_cases hshort : query.length < 17
  · exact ⟨none, if_pos hshort, hnone⟩
  rw [if_neg hshort, index_eq (by omega), Option.bind_some]
  by_cases hresponse : byteAt query 2 &&& 0x80 ≠ 0
  · exact ⟨none, if_pos hresponse, hnone⟩
  rw [if_neg hresponse, index_eq (by omega), Option.bind_some, index_eq (by omega),
    Option.bind_some]
  by_cases hcount : word (byteAt query 4) (byteAt query 5) = 0
  · exact ⟨none, if_pos hcount, hnone⟩
  obtain ⟨found, hfound, hname⟩ :=
    @walkLabels_name query (query.length + 1) 12 (by omega) (by omega)
  rw [if_neg hcount, hfound, Option.bind_some]
  cases found with
  | none => exact ⟨none, rfl, hnone⟩
  | some i =>
    obtain ⟨hlater, hend, hisName⟩ := hname i rfl
    simp only []
    by_cases hroom : i + 4 > query.length
    · exact ⟨none, if_pos hroom, hnone⟩
    rw [if_neg hroom, index_eq (by omega), Option.bind_some, index_eq (by omega),
      Option.bind_some, index_eq (by omega), Option.bind_some, index_eq (by omega),
      Option.bind_some]
    refine ⟨_, rfl, fun question hquestion => ?_⟩
    cases hquestion
    exact ⟨rfl, hlater, not_lt.mp hroom, hisName⟩

/-- Only the few short names have an address. -/
theorem dnsAnswerIp_length {answerIp : List UInt8}
    (h : dnsAnswerIp motherbrainIp name = some answerIp) :
    name.length ≤ 33 ∧ answerIp.length = 4 := by
  have hlength : ∀ known, dnsNameEq name known = true → name.length = known.length := by
    intro known hknown
    simpa using (Bool.and_eq_true_iff.mp hknown).1
  rw [dnsAnswerIp] at h
  split at h
  · next hknown =>
    cases h
    simp only [Bool.or_eq_true] at hknown
    refine ⟨?_, rfl⟩
    rcases hknown with ((hknown | hknown) | hknown) | hknown <;>
      exact (hlength _ hknown).trans_le (by decide)
  · split at h
    · next hknown =>
      obtain ⟨ip, -, rfl⟩ := Option.map_eq_some_iff.mp h
      exact ⟨(hlength _ hknown).trans_le (by decide), ip.size_toArray⟩
    · cases h

/-- The reply that is written into the buffer. -/
theorem buildDnsReply_echoes (motherbrainIp : Option (Vector UInt8 4)) (query : List UInt8)
    (response : Vector UInt8 512) :
    ∃ reply, buildDnsReply motherbrainIp query response = some reply ∧
      ∀ bytes, reply = some bytes → EchoesQuestion query bytes := by
  have hnone : ∀ bytes, none = some bytes → EchoesQuestion query bytes := fun _ h => by cases h
  obtain ⟨question, hquestion, hfound⟩ := parseDnsQuestion_name query
  unfold buildDnsReply
  simp only [Option.bind_eq_bind, Option.pure_def]
  rw [hquestion, Option.bind_some]
  cases question with
  | none => exact ⟨none, rfl, hnone⟩
  | some question =>
    obtain ⟨hstop, hlater, hend, hisName⟩ := hfound question rfl
    simp only []
    rw [slice_eq (by omega), Option.bind_some]
    cases hanswer : dnsAnswerIp motherbrainIp (span query 12 question.nameEnd) with
    | none => exact ⟨none, rfl, hnone⟩
    | some answerIp =>
      obtain ⟨hshort, hfour⟩ := dnsAnswerIp_length hanswer
      rw [length_span (by omega)] at hshort
      simp only []
      by_cases hqtype : question.qtype ≠ 1 ∧ question.qtype ≠ 255
      · exact ⟨none, if_pos hqtype, hnone⟩
      rw [if_neg hqtype]
      by_cases hqclass : question.qclass ≠ 1 ∧ question.qclass ≠ 255
      · exact ⟨none, if_pos hqclass, hnone⟩
      have hcopied : write response.toList 0 (span query 0 question.stop) =
          some (span query 0 question.stop ++ response.toList.drop question.stop) := by
        refine @write_drop response.toList [] (span query 0 question.stop) question.stop 0 rfl ?_ ?_
        · rw [length_span hend]
          omega
        · rw [Vector.length_toList]
          omega
      -- the copied text is the identifier, the rest of the header and the question
      rw [← @span_append_span query 2 0 question.stop (by omega) (by omega),
        ← @span_append_span query 12 2 question.stop (by omega) (by omega)] at hcopied
      have hheader : ∀ flags : List UInt8, flags.length = 10 →
          write (span query 0 2 ++ (span query 2 12 ++ span query 12 question.stop) ++
            response.toList.drop question.stop) 2 flags =
          some (span query 0 2 ++ flags ++ span query 12 question.stop ++
            response.toList.drop question.stop) := by
        intro flags hflags
        have := @write_append (span query 0 2) (span query 2 12)
          (span query 12 question.stop ++ response.toList.drop question.stop) flags 2
          (length_span (by omega)) (by rw [length_span (by omega), hflags])
        simpa using this
      have hfront : ∀ flags : List UInt8, flags.length = 10 →
          (span query 0 2 ++ flags ++ span query 12 question.stop).length = question.stop := by
        intro flags hflags
        rw [List.length_append, List.length_append, length_span (by omega), length_span hend, hflags]
        omega
      have hflags : ∀ flags : UInt8,
          [0x84 ||| (flags &&& 0x01), 0, 0, 1, 0, 1, 0, 0, 0, 0].length = 10 := fun _ => rfl
      have hlast : ([0xc0, 0x0c, 0, 1, 0, 1, 0, 0, 0, 0x3c, 0, 4] ++ answerIp).length = 16 := by
        rw [List.length_append, hfour]
        rfl
      generalize [0xc0, 0x0c, 0, 1, 0, 1, 0, 0, 0, 0x3c, 0, 4] ++ answerIp = answer at hlast ⊢
      rw [if_neg hqclass, slice_eq (by omega), Option.bind_some,
        ← @span_append_span query 2 0 question.stop (by omega) (by omega),
        ← @span_append_span query 12 2 question.stop (by omega) (by omega), hcopied,
        Option.bind_some, index_eq (by omega), Option.bind_some, hheader _ (hflags _),
        Option.bind_some]
      generalize hwritten : span query 0 2 ++
        [0x84 ||| (byteAt query 2 &&& 0x01), 0, 0, 1, 0, 1, 0, 0, 0, 0] = front
      have hlength : front.length = 12 := by
        rw [← hwritten, List.length_append, length_span (by omega)]
        rfl
      have hstart : (front ++ span query 12 question.stop).length = question.stop := by
        rw [← hwritten]
        exact hfront _ (hflags _)
      have hsize : ¬question.stop + answer.length >
          (front ++ span query 12 question.stop ++ response.toList.drop question.stop).length := by
        rw [List.length_append, hstart, List.length_drop, Vector.length_toList, hlast]
        omega
      have hanswered : write (front ++ span query 12 question.stop ++
          response.toList.drop question.stop) question.stop answer =
          some (front ++ span query 12 question.stop ++ answer ++
            response.toList.drop (question.stop + 16)) := by
        refine write_drop hstart (by rw [hlast]) ?_
        rw [Vector.length_toList]
        omega
      have hread : span (front ++ span query 12 question.stop ++ answer ++
          response.toList.drop (question.stop + 16)) 0 (question.stop + 16) =
          front ++ span query 12 question.stop ++ answer := by
        refine @span_append [] (front ++ span query 12 question.stop ++ answer) _ 0 _ rfl ?_
        rw [List.length_append, hstart, hlast, Nat.zero_add]
      rw [if_neg hsize, hanswered, Option.bind_some, hlast, slice_eq, hread]
      · refine ⟨_, rfl, fun bytes hbytes => ?_⟩
        cases hbytes
        refine ⟨by rw [List.length_append, hstart, hlast]; omega, query.take 12,
          span query 12 question.nameEnd, span query question.nameEnd question.stop,
          query.drop question.stop, front, answer, ?_, ?_, hisName, ?_, ?_, hlength⟩
        · rw [span_append_span (by omega) (by omega)]
          exact span_split ⟨by omega, hend⟩
        · rw [List.length_take]
          omega
        · rw [length_span hend]
          omega
        · rw [span_append_span (by omega) (by omega)]
      · simp only [List.length_append, List.length_drop, Vector.length_toList, hlast] at hstart ⊢
        omega

end Names

section Options

variable {packet more : List UInt8} {wanted option : UInt8}

theorem emptyOption_pad (hwanted : wanted ≠ 0) :
    EmptyOption wanted (0 :: more) ↔ EmptyOption wanted more := by
  constructor
  · intro h
    cases h with
    | found => exact absurd rfl hwanted
    | pad h => exact h
    | other hzero => exact absurd rfl hzero
  · exact .pad

theorem not_emptyOption_end (hwanted : wanted ≠ 255) : ¬EmptyOption wanted (255 :: more) := by
  intro h
  cases h with
  | found => exact hwanted rfl
  | other _ hend => exact hend rfl

theorem emptyOption_wanted {len : UInt8} (hwanted : wanted ≠ 0) :
    EmptyOption wanted (wanted :: len :: more) ↔ len = 0 := by
  constructor
  · intro h
    cases h with
    | found => rfl
    | pad => exact absurd rfl hwanted
    | other _ _ hother => exact absurd rfl hother
  · rintro rfl
    exact .found

theorem emptyOption_other {len : UInt8} {value : List UInt8} (hzero : option ≠ 0)
    (hend : option ≠ 255) (hother : option ≠ wanted) (hvalue : value.length = len.toNat) :
    EmptyOption wanted (option :: len :: (value ++ more)) ↔ EmptyOption wanted more := by
  constructor
  · intro h
    generalize hline : option :: len :: (value ++ more) = line at h
    cases h with
    | found => exact absurd (List.cons.inj hline).1 hother
    | pad => exact absurd (List.cons.inj hline).1 hzero
    | other _ _ _ hlength h =>
      obtain ⟨hlen, hrest⟩ := List.cons.inj (List.cons.inj hline).2
      rw [(List.append_inj hrest (by rw [hvalue, hlength, hlen])).2]
      exact h
  · exact .other hzero hend hother hvalue

/-- An option whose value is cut off is not empty, and neither is what follows it. -/
theorem not_emptyOption_short {len : UInt8} (hzero : option ≠ 0)
    (hshort : more.length < len.toNat) : ¬EmptyOption wanted (option :: len :: more) := by
  intro h
  generalize hline : option :: len :: more = line at h
  cases h with
  | found =>
    obtain ⟨-, hline⟩ := List.cons.inj hline
    obtain ⟨rfl, -⟩ := List.cons.inj hline
    cases hshort
  | pad => exact absurd (List.cons.inj hline).1 hzero
  | other _ _ _ hlength =>
    obtain ⟨-, hline⟩ := List.cons.inj hline
    obtain ⟨rfl, rfl⟩ := List.cons.inj hline
    rw [List.length_append] at hshort
    omega

/-- The walk ends, and finds an empty value where the option is empty. -/
theorem walkOptions_empty {rounds i : Nat} (h : packet.length < i + rounds)
    (hi : i ≤ packet.length) :
    ∃ found, walkOptions rounds packet wanted i = some found ∧ (wanted ≠ 0 → wanted ≠ 255 →
      (found = some [] ↔ EmptyOption wanted (packet.drop i))) := by
  induction rounds generalizing i with
  | zero => omega
  | succ rounds ih =>
    rw [walkOptions]
    simp only [Option.bind_eq_bind, Option.pure_def, Option.map_eq_map]
    by_cases hlt : i < packet.length
    · rw [if_pos hlt, index_eq hlt, Option.bind_some, drop_eq_cons hlt]
      generalize byteAt packet i = option
      by_cases hpad : option = 0
      · obtain ⟨found, hfound, hempty⟩ := @ih (i + 1) (by omega) hlt
        rw [if_pos hpad, hpad]
        refine ⟨found, hfound, fun hzero hend => ?_⟩
        rw [emptyOption_pad hzero]
        exact hempty hzero hend
      rw [if_neg hpad]
      by_cases hlast : option = 255
      · rw [if_pos hlast, hlast]
        exact ⟨none, rfl, fun _ hend =>
          iff_of_false (fun h => by cases h) (not_emptyOption_end hend)⟩
      rw [if_neg hlast]
      by_cases hshort : i + 1 ≥ packet.length
      · rw [if_pos hshort, List.drop_eq_nil_of_le hshort]
        refine ⟨none, rfl, fun _ _ => iff_of_false (fun h => by cases h) (fun h => ?_)⟩
        cases h with
        | pad => exact hpad rfl
      rw [if_neg hshort, index_eq (not_le.mp hshort), Option.bind_some,
        drop_eq_cons (not_le.mp hshort)]
      generalize byteAt packet (i + 1) = len
      by_cases hlong : i + 2 + len.toNat > packet.length
      · rw [if_pos hlong]
        refine ⟨none, rfl, fun _ _ =>
          iff_of_false (fun h => by cases h) (not_emptyOption_short hpad ?_)⟩
        rw [List.length_drop]
        omega
      have hvalue : (span packet (i + 2) (i + 2 + len.toNat)).length = len.toNat := by
        rw [length_span (not_lt.mp hlong), Nat.add_sub_cancel_left]
      rw [if_neg hlong]
      by_cases hwanted : option = wanted
      · rw [if_pos hwanted, hwanted, slice_eq (by omega)]
        refine ⟨_, rfl, fun hzero _ => ?_⟩
        rw [emptyOption_wanted hzero, Option.some.injEq, List.eq_nil_iff_length_eq_zero, hvalue, ← UInt8.toNat_inj]
        rfl
      · obtain ⟨found, hfound, hempty⟩ := @ih (i + 2 + len.toNat) (by omega) (by omega)
        rw [if_neg hwanted, @drop_eq_span packet (i + 2) (i + 2 + len.toNat) (by omega),
          emptyOption_other hpad hlast hwanted hvalue]
        exact ⟨found, hfound, hempty⟩
    · rw [if_neg hlt, List.drop_eq_nil_of_le (not_lt.mp hlt)]
      refine ⟨none, rfl, fun _ _ => iff_of_false (fun h => by cases h) (fun h => ?_)⟩
      cases h

theorem dhcpOption_empty (packet : List UInt8) (wanted : UInt8) :
    ∃ found, dhcpOption packet wanted = some found ∧ (wanted ≠ 0 → wanted ≠ 255 →
      (found = some [] ↔ 240 ≤ packet.length ∧ span packet 236 240 = [99, 130, 83, 99] ∧
        EmptyOption wanted (packet.drop 240))) := by
  unfold dhcpOption
  simp only [Option.bind_eq_bind, Option.pure_def]
  by_cases hshort : packet.length < 240
  · rw [if_pos hshort]
    exact ⟨none, rfl, fun _ _ => iff_of_false (fun h => by cases h) (fun h => by omega)⟩
  rw [if_neg hshort, slice_eq (by omega), Option.bind_some]
  by_cases hcookie : span packet 236 240 ≠ [99, 130, 83, 99]
  · rw [if_pos hcookie]
    exact ⟨none, rfl, fun _ _ => iff_of_false (fun h => by cases h) (fun h => hcookie h.2.1)⟩
  · obtain ⟨found, hfound, hempty⟩ :=
      @walkOptions_empty packet wanted (packet.length + 1) 240 (by omega) (by omega)
    rw [if_neg hcookie]
    refine ⟨found, hfound, fun hzero hend =>
      (hempty hzero hend).trans ⟨fun h => ?_, fun h => h.2.2⟩⟩
    exact ⟨not_lt.mp hshort, not_not.mp hcookie, h⟩

theorem dhcpMessageType_isSome : (dhcpMessageType packet).isSome = true ↔
    ¬(240 ≤ packet.length ∧ span packet 236 240 = [99, 130, 83, 99] ∧
      EmptyOption 53 (packet.drop 240)) := by
  obtain ⟨found, hfound, hempty⟩ := dhcpOption_empty packet 53
  rw [← hempty (by decide) (by decide), dhcpMessageType, hfound]
  simp only [Option.bind_eq_bind, Option.pure_def, Option.bind_some]
  cases found with
  | none => simp
  | some value => cases value <;> simp [index]

theorem parseDhcpRequest_isSome :
    (parseDhcpRequest packet).isSome = true ↔ ¬Untyped packet := by
  have huntyped : Untyped packet ↔
      ((240 ≤ packet.length ∧ byteAt packet 0 = 1 ∧ byteAt packet 1 = 1 ∧ 6 ≤ byteAt packet 2) ∧
        (240 ≤ packet.length ∧ span packet 236 240 = [99, 130, 83, 99] ∧
          EmptyOption 53 (packet.drop 240))) :=
    ⟨fun h => ⟨⟨h.size, h.operation⟩, h.size, h.cookie, h.messageType⟩,
      fun h => ⟨h.1.1, h.1.2, h.2.2.1, h.2.2.2⟩⟩
  rw [huntyped, not_and, ← dhcpMessageType_isSome]
  unfold parseDhcpRequest
  simp only [Option.bind_eq_bind, Option.pure_def]
  by_cases hshort : packet.length < 240
  · rw [if_pos hshort]
    exact iff_of_true rfl fun h => by omega
  rw [if_neg hshort, index_eq (by omega), Option.bind_some]
  by_cases hop : byteAt packet 0 ≠ 1
  · rw [if_pos hop]
    exact iff_of_true rfl fun h => absurd h.2.1 hop
  rw [if_neg hop, index_eq (by omega), Option.bind_some]
  by_cases htype : byteAt packet 1 ≠ 1
  · rw [if_pos htype]
    exact iff_of_true rfl fun h => absurd h.2.2.1 htype
  rw [if_neg htype, index_eq (by omega), Option.bind_some]
  by_cases hlen : byteAt packet 2 < 6
  · rw [if_pos hlen]
    exact iff_of_true rfl fun h => absurd h.2.2.2 (UInt8.not_le.mpr hlen)
  obtain ⟨identifier, hidentifier, -⟩ := dhcpOption_empty packet 61
  obtain ⟨hostname, hhostname, -⟩ := dhcpOption_empty packet 12
  rw [if_neg hlen, slice_eq (by omega), Option.bind_some, hidentifier, Option.bind_some, hhostname,
    Option.bind_some]
  have hrequest : 240 ≤ packet.length ∧ byteAt packet 0 = 1 ∧ byteAt packet 1 = 1 ∧
      6 ≤ byteAt packet 2 :=
    ⟨not_lt.mp hshort, not_not.mp hop, not_not.mp htype, UInt8.not_lt.mp hlen⟩
  rw [iff_true_intro hrequest, true_imp_iff]
  cases hkind : dhcpMessageType packet with
  | none => simp
  | some kind => cases kind <;> simp

end Options

/-- The readers are total exactly if the lease request has no empty message type. -/
theorem total_iff (motherbrainIp : Option (Vector UInt8 4)) (query : List UInt8)
    (response : Vector UInt8 512) (packet : List UInt8) :
    Total motherbrainIp query response packet ↔ ¬Untyped packet := by
  constructor
  · exact fun h => parseDhcpRequest_isSome.mp h.dhcp
  · intro h
    refine ⟨buildDnsReply_echoes motherbrainIp query response, ?_, parseDhcpRequest_isSome.mpr h⟩
    intro wanted
    obtain ⟨found, hfound, -⟩ := dhcpOption_empty packet wanted
    rw [hfound]
    rfl

/-- A lease request of which the only option is a message type without a value. -/
def untypedRequest : List UInt8 :=
  [1, 1, 6] ++ List.replicate 233 0 ++ [99, 130, 83, 99, 53, 0]

theorem untypedRequest_panics :
    ¬Total none [] (Vector.replicate 512 0) untypedRequest := by
  intro h
  exact absurd h.dhcp (by decide +kernel)

end Netherwick.Brainstem.Discovery
