import Netherwick.Lib.Bytes

/-! # The echo responder

A request is answered in place: the link addresses change sides, the header is written anew
without options, and the message moves up to it. Every access is checked. -/

namespace Netherwick.Brainstem.Icmp

open Netherwick.Lib.Bytes

def apIpOctets : List UInt8 := [192, 168, 4, 1]

def maxFrameLen : Nat := 1280

def echoReplyLimitPerSecond : UInt8 := 4

structure IcmpRateLimit where
  windowStartedMs : UInt64 := 0
  repliesInWindow : UInt8 := 0
  deriving DecidableEq, Repr

def IcmpRateLimit.allow (self : IcmpRateLimit) (nowMs : UInt64) : Bool × IcmpRateLimit :=
  let window : IcmpRateLimit :=
    if nowMs - self.windowStartedMs ≥ 1000 then ⟨nowMs, 0⟩ else self
  if window.repliesInWindow ≥ echoReplyLimitPerSecond then (false, window)
  else (true, { window with repliesInWindow := window.repliesInWindow + 1 })

inductive IcmpEchoDisposition
  | notIcmp
  | reply (length : Nat)
  | rateLimited
  | dropped
  deriving DecidableEq, Repr

/-- Where the message of an echo request lies in its frame, or what becomes of the frame. -/
def findEchoRequest (frame : List UInt8) : Option (Except IcmpEchoDisposition (Nat × Nat)) := do
  if frame.length < 14 then return .error .notIcmp
  if (← slice frame 12 14) ≠ [0x08, 0x00] then return .error .notIcmp
  let ip ← slice frame 14 frame.length
  if ip.length < 20 then return .error .notIcmp
  if (← index ip 0) >>> 4 ≠ 4 then return .error .notIcmp
  if (← index ip 9) ≠ 1 then return .error .notIcmp
  if frame.length > maxFrameLen then return .error .dropped
  let headerLen := ((← index ip 0) &&& 0x0f).toNat * 4
  if headerLen < 20 ∨ headerLen > ip.length then return .error .dropped
  let totalLen := word (← index ip 2) (← index ip 3)
  if totalLen < headerLen + 8 then return .error .dropped
  if totalLen > ip.length then return .error .dropped
  if checksum (← slice ip 0 headerLen) ≠ 0 then return .error .dropped
  if (← slice ip 16 20) ≠ apIpOctets then return .error .dropped
  if (← slice ip 12 16) = [0, 0, 0, 0] then return .error .dropped
  if (← index ip 12) ≥ 224 then return .error .dropped
  if word (← index ip 6) (← index ip 7) &&& 0x3fff ≠ 0 then return .error .dropped
  if checksum (← slice frame (14 + headerLen) (14 + totalLen)) ≠ 0 then return .error .dropped
  if (← index frame (14 + headerLen)) ≠ 8 then return .error .dropped
  if (← index frame (14 + headerLen + 1)) ≠ 0 then return .error .dropped
  return .ok (14 + headerLen, 14 + totalLen)

/-- The header of a reply, twenty bytes written over zeros. -/
def replyHeader (totalLen : Nat) (sourceIp : List UInt8) : Option (List UInt8) := do
  let ip := List.replicate 20 0
  let ip ← write ip 0 [0x45]
  let ip ← write ip 2 (be16 totalLen)
  let ip ← write ip 8 [64]
  let ip ← write ip 9 [1]
  let ip ← write ip 12 apIpOctets
  let ip ← write ip 16 sourceIp
  write ip 10 (be16 (checksum ip))

/-- The frame after an answer in place. -/
def writeEchoReply (frame : List UInt8) (icmpStart icmpEnd : Nat) : Option (List UInt8) := do
  let icmpLen := icmpEnd - icmpStart
  let sourceMac ← slice frame 0 6
  let destinationMac ← slice frame 6 12
  let sourceIp ← slice frame 26 30
  let frame ← write frame 0 destinationMac
  let frame ← write frame 6 sourceMac
  let frame ← write frame 14 (← replyHeader (20 + icmpLen) sourceIp)
  let frame ← write frame 38 (← slice frame (icmpStart + 4) icmpEnd)
  let frame ← write frame 34 [0]
  let frame ← write frame 35 [0]
  let frame ← write frame 36 [0, 0]
  write frame 36 (be16 (checksum (← slice frame 34 (34 + icmpLen))))

def processIcmpEchoFrame (frame : List UInt8) (nowMs : UInt64) (rateLimit : IcmpRateLimit) :
    Option (IcmpEchoDisposition × List UInt8 × IcmpRateLimit) := do
  match ← findEchoRequest frame with
  | .error disposition => return (disposition, frame, rateLimit)
  | .ok (icmpStart, icmpEnd) =>
    let allowed := rateLimit.allow nowMs
    if !allowed.1 then return (.rateLimited, frame, allowed.2)
    let reply ← writeEchoReply frame icmpStart icmpEnd
    return (.reply (34 + (icmpEnd - icmpStart)), reply, allowed.2)

section Requests

variable (frame : List UInt8)

def headerLen : Nat := (byteAt frame 14 &&& 0x0f).toNat * 4

def totalLen : Nat := word (byteAt frame 16) (byteAt frame 17)

def message : List UInt8 := span frame (14 + headerLen frame) (14 + totalLen frame)

/-- An unfragmented echo request to the access point, with valid lengths and checksums. -/
structure EchoRequest : Prop where
  etherType : span frame 12 14 = [0x08, 0x00]
  version : byteAt frame 14 >>> 4 = 4
  header : 20 ≤ headerLen frame
  total : headerLen frame + 8 ≤ totalLen frame ∧ 14 + totalLen frame ≤ frame.length
  headerChecksum : checksum (span frame 14 (14 + headerLen frame)) = 0
  protocol : byteAt frame 23 = 1
  destination : span frame 30 34 = apIpOctets
  unfragmented : word (byteAt frame 20) (byteAt frame 21) &&& 0x3fff = 0
  messageChecksum : checksum (message frame) = 0
  echo : byteAt frame (14 + headerLen frame) = 8 ∧ byteAt frame (14 + headerLen frame + 1) = 0

/-- What the responder asks beyond that: a frame of at most 1280 bytes from one host. -/
structure Answerable : Prop extends EchoRequest frame where
  size : frame.length ≤ maxFrameLen
  known : span frame 26 30 ≠ [0, 0, 0, 0]
  host : byteAt frame 26 < 224

def IcmpRateLimit.Within (self : IcmpRateLimit) (nowMs : UInt64) : Prop :=
  1000 ≤ nowMs - self.windowStartedMs ∨ self.repliesInWindow < echoReplyLimitPerSecond

structure EchoReply (reply : List UInt8) (length : Nat) : Prop where
  length_eq : length = 34 + (message frame).length
  fits : reply.length = frame.length
  macs : span reply 0 6 = span frame 6 12 ∧ span reply 6 12 = span frame 0 6
  etherType : span reply 12 14 = [0x08, 0x00]
  header : byteAt reply 14 = 0x45 ∧ byteAt reply 23 = 1 ∧
    word (byteAt reply 16) (byteAt reply 17) = length - 14
  addresses : span reply 26 30 = apIpOctets ∧ span reply 30 34 = span frame 26 30
  headerChecksum : checksum (span reply 14 34) = 0
  messageChecksum : checksum (span reply 34 length) = 0
  echo : byteAt reply 34 = 0 ∧ byteAt reply 35 = 0
  /-- The identifier, the sequence number and the payload. -/
  content : span reply 38 length = (message frame).drop 4

end Requests

section Finding

variable {frame : List UInt8} {rest : Option (Except IcmpEchoDisposition (Nat × Nat))}
  {disposition : IcmpEchoDisposition} {c : Prop}

/-- The search ends without a panic, and finds the message of a frame that is to be answered. -/
def Found (frame : List UInt8) (result : Option (Except IcmpEchoDisposition (Nat × Nat))) : Prop :=
  (∃ disposition, result = some (.error disposition) ∧ (∀ length, disposition ≠ .reply length) ∧
    ¬Answerable frame) ∨
  (result = some (.ok (14 + headerLen frame, 14 + totalLen frame)) ∧ Answerable frame)

theorem Found.check [Decidable c] (hdisposition : ∀ length, disposition ≠ .reply length)
    (hc : Answerable frame → ¬c) (hrest : ¬c → Found frame rest) :
    Found frame (if c then some (.error disposition) else rest) := by
  by_cases h : c
  · rw [if_pos h]
    exact .inl ⟨disposition, rfl, hdisposition, fun hframe => hc hframe h⟩
  · rw [if_neg h]
    exact hrest h

theorem Found.dropped [Decidable c] (hc : Answerable frame → ¬c) (hrest : ¬c → Found frame rest) :
    Found frame (if c then some (.error .dropped) else rest) :=
  .check (fun _ => by simp) hc hrest

theorem Found.notIcmp [Decidable c] (hc : Answerable frame → ¬c) (hrest : ¬c → Found frame rest) :
    Found frame (if c then some (.error .notIcmp) else rest) :=
  .check (fun _ => by simp) hc hrest

theorem findEchoRequest_found (frame : List UInt8) : Found frame (findEchoRequest frame) := by
  have hlength : Answerable frame → 42 ≤ frame.length := by
    intro h
    have htotal := h.total
    have hheader := h.header
    omega
  unfold findEchoRequest
  simp only [Option.bind_eq_bind, Option.pure_def]
  refine .notIcmp (fun h => by have := hlength h; omega) fun hether => ?_
  rw [slice_eq (by omega), Option.bind_some]
  refine .notIcmp (fun h => not_not.mpr h.etherType) fun htype => ?_
  rw [slice_eq (by omega), Option.bind_some]
  have hip : (span frame 14 frame.length).length = frame.length - 14 :=
    length_span (le_refl _)
  rw [hip]
  refine .notIcmp (fun h => by have := hlength h; omega) fun hshort => ?_
  have hbyte : ∀ i, i < 20 → index (span frame 14 frame.length) i = some (byteAt frame (14 + i)) := by
    intro i hi
    rw [index_eq (by omega), byteAt_span (by omega)]
  simp only [hbyte, Nat.reduceLT, Option.bind_some, Nat.reduceAdd]
  refine .notIcmp (fun h => not_not.mpr h.version) fun hversion => ?_
  refine .notIcmp (fun h => not_not.mpr h.protocol) fun hprotocol => ?_
  refine .dropped (fun h => not_lt.mpr h.size) fun hsize => ?_
  change Found frame (if headerLen frame < 20 ∨ headerLen frame > frame.length - 14 then _ else _)
  refine .dropped (fun h => by have := h.header; have := h.total; omega) fun hheader => ?_
  change Found frame (if totalLen frame < headerLen frame + 8 then _ else _)
  refine .dropped (fun h => not_lt.mpr h.total.1) fun hmessage => ?_
  change Found frame (if totalLen frame > frame.length - 14 then _ else _)
  refine .dropped (fun h => by have := h.total; omega) fun htotal => ?_
  change Found frame ((slice (span frame 14 frame.length) 0 (headerLen frame)).bind _)
  rw [slice_eq (by omega), Option.bind_some, span_span (by omega)]
  refine .dropped (fun h => not_not.mpr h.headerChecksum) fun hchecksum => ?_
  rw [slice_eq (by omega), Option.bind_some, span_span (by omega)]
  refine .dropped (fun h => not_not.mpr h.destination) fun hdestination => ?_
  rw [slice_eq (by omega), Option.bind_some, span_span (by omega)]
  refine .dropped (fun h => h.known) fun hknown => ?_
  refine .dropped (fun h => UInt8.not_le.mpr h.host) fun hhost => ?_
  refine .dropped (fun h => not_not.mpr h.unfragmented) fun hfragment => ?_
  change Found frame ((slice frame (14 + headerLen frame) (14 + totalLen frame)).bind _)
  rw [slice_eq (by omega), Option.bind_some]
  refine .dropped (fun h => not_not.mpr h.messageChecksum) fun hsum => ?_
  change Found frame ((index frame (14 + headerLen frame)).bind _)
  rw [index_eq (by omega), Option.bind_some]
  refine .dropped (fun h => not_not.mpr h.echo.1) fun hkind => ?_
  change Found frame ((index frame (14 + headerLen frame + 1)).bind _)
  rw [index_eq (by omega), Option.bind_some]
  refine .dropped (fun h => not_not.mpr h.echo.2) fun hcode => ?_
  exact .inr ⟨rfl, {
    etherType := not_not.mp htype
    version := not_not.mp hversion
    header := by omega
    total := by omega
    headerChecksum := not_not.mp hchecksum
    protocol := not_not.mp hprotocol
    destination := not_not.mp hdestination
    unfragmented := not_not.mp hfragment
    messageChecksum := not_not.mp hsum
    echo := ⟨not_not.mp hkind, not_not.mp hcode⟩
    size := not_lt.mp hsize
    known := hknown
    host := UInt8.not_le.mp hhost }⟩

end Finding

section Answering

variable {frame sourceIp : List UInt8} {length : Nat}

/-- The header up to its checksum. -/
def headerFront (length : Nat) : List UInt8 := [0x45, 0] ++ be16 length ++ [0, 0, 0, 0, 64, 1]

/-- The header of a reply of the given length to a host. -/
def headerBytes (length : Nat) (sourceIp : List UInt8) : List UInt8 :=
  headerFront length ++ be16 (checksum (headerFront length ++ [0, 0] ++ (apIpOctets ++ sourceIp))) ++
    (apIpOctets ++ sourceIp)

theorem replyHeader_eq (h : sourceIp.length = 4) :
    replyHeader length sourceIp = some (headerBytes length sourceIp) := by
  have hwritten : write ([0x45, 0] ++ be16 length ++ [0, 0, 0, 0, 64, 1, 0, 0] ++ apIpOctets ++
      [0, 0, 0, 0]) 16 sourceIp = some (headerFront length ++ [0, 0] ++ (apIpOctets ++ sourceIp)) := by
    have hwrite := @write_append ([0x45, 0] ++ be16 length ++ [0, 0, 0, 0, 64, 1, 0, 0] ++
      apIpOctets) [0, 0, 0, 0] [] sourceIp 16 rfl h.symm
    simpa [headerFront] using hwrite
  change (write ([0x45, 0] ++ be16 length ++ [0, 0, 0, 0, 64, 1, 0, 0] ++ apIpOctets ++
    [0, 0, 0, 0]) 16 sourceIp).bind _ = _
  rw [hwritten, Option.bind_some]
  exact @write_append (headerFront length) [0, 0] (apIpOctets ++ sourceIp)
    (be16 (checksum (headerFront length ++ [0, 0] ++ (apIpOctets ++ sourceIp)))) 10
    (by simp [headerFront]) (by simp)

/-- An answered frame: the addresses change sides, then come the header and the message. -/
def answered (frame : List UInt8) (length : Nat) (content : List UInt8) : List UInt8 :=
  span frame 6 12 ++ span frame 0 6 ++ span frame 12 14 ++
    headerBytes (length - 14) (span frame 26 30) ++
    ([0, 0] ++ be16 (checksum ([0, 0] ++ [0, 0] ++ content)) ++ content) ++ frame.drop length

theorem writeEchoReply_eq {icmpStart icmpEnd : Nat} (hstart : 34 ≤ icmpStart)
    (hend : icmpStart + 8 ≤ icmpEnd ∧ icmpEnd ≤ frame.length) :
    writeEchoReply frame icmpStart icmpEnd =
      some (answered frame (34 + (icmpEnd - icmpStart)) (span frame (icmpStart + 4) icmpEnd)) := by
  have hspan : ∀ i j, j ≤ frame.length → (span frame i j).length = j - i := fun _ _ => length_span
  have hheader : replyHeader (20 + (icmpEnd - icmpStart)) (span frame 26 30) =
      some (headerBytes (20 + (icmpEnd - icmpStart)) (span frame 26 30)) :=
    replyHeader_eq (hspan 26 30 (by omega))
  have hip : (headerBytes (20 + (icmpEnd - icmpStart)) (span frame 26 30)).length = 20 := by
    simp [headerBytes, headerFront, apIpOctets, hspan 26 30 (by omega)]
  have hlength : 34 + (icmpEnd - icmpStart) - 14 = 20 + (icmpEnd - icmpStart) := by omega
  rw [answered, hlength]
  generalize headerBytes (20 + (icmpEnd - icmpStart)) (span frame 26 30) = ip at hheader hip
  generalize hcontent : span frame (icmpStart + 4) icmpEnd = content
  have hcount : content.length = icmpEnd - icmpStart - 4 := by
    rw [← hcontent, hspan _ _ hend.2]
    omega
  -- the addresses
  have hdestination : write frame 0 (span frame 6 12) = some (span frame 6 12 ++ frame.drop 6) :=
    @write_drop frame [] (span frame 6 12) 6 0 rfl (by rw [hspan 6 12 (by omega)]) (by omega)
  have hsource : write (span frame 6 12 ++ frame.drop 6) 6 (span frame 0 6) =
      some (span frame 6 12 ++ span frame 0 6 ++ span frame 12 14 ++ frame.drop 14) := by
    rw [List.append_assoc _ (span frame 12 14), ← drop_eq_span (by decide)]
    exact write_drop (hspan 6 12 (by omega)) (by rw [hspan 0 6 (by omega)]) (by omega)
  have hmacs : (span frame 6 12 ++ span frame 0 6 ++ span frame 12 14).length = 14 := by
    rw [List.length_append, List.length_append, hspan 6 12 (by omega), hspan 0 6 (by omega),
      hspan 12 14 (by omega)]
  generalize span frame 6 12 ++ span frame 0 6 ++ span frame 12 14 = macs at hsource hmacs ⊢
  -- the header
  have hwritten : write (macs ++ frame.drop 14) 14 ip = some (macs ++ ip ++ frame.drop 34) :=
    write_drop hmacs (by rw [hip]) (by omega)
  have hfront : (macs ++ ip).length = 34 := by rw [List.length_append, hmacs, hip]
  generalize macs ++ ip = front at hwritten hfront ⊢
  -- the message moves up to it
  have hread : slice (front ++ frame.drop 34) (icmpStart + 4) icmpEnd = some content := by
    rw [slice_eq, span_after hfront (by omega), hcontent]
    rw [List.length_append, List.length_drop]
    omega
  obtain ⟨a, b, c, d, hquad⟩ : ∃ a b c d, span frame 34 38 = [a, b, c, d] := by
    have hfour := hspan 34 38 (by omega)
    generalize span frame 34 38 = quad at hfour
    rcases quad with _ | ⟨a, _ | ⟨b, _ | ⟨c, _ | ⟨d, _ | ⟨e, rest⟩⟩⟩⟩⟩ <;> simp at hfour
    exact ⟨a, b, c, d, rfl⟩
  have hmoved : write (front ++ frame.drop 34) 38 content =
      some (front ++ [a, b, c, d] ++ (content ++ frame.drop (34 + (icmpEnd - icmpStart)))) := by
    rw [drop_eq_span (show 34 ≤ 38 by decide), hquad, ← List.append_assoc, ← List.append_assoc]
    exact write_drop (by rw [List.length_append, hfront]; rfl) (by omega) (by omega)
  generalize hrest : content ++ frame.drop (34 + (icmpEnd - icmpStart)) = rest at hmoved
  -- its type, its code and its checksum
  have hkind : write (front ++ [a, b, c, d] ++ rest) 34 [0] = some (front ++ [0, b, c, d] ++ rest) := by
    have := @write_append front [a] ([b, c, d] ++ rest) [0] 34 hfront rfl
    simpa using this
  have hcode : write (front ++ [0, b, c, d] ++ rest) 35 [0] = some (front ++ [0, 0, c, d] ++ rest) := by
    have := @write_append (front ++ [0]) [b] ([c, d] ++ rest) [0] 35 (by simp [hfront]) rfl
    simpa using this
  have hcleared : write (front ++ [0, 0, c, d] ++ rest) 36 [0, 0] =
      some (front ++ [0, 0, 0, 0] ++ rest) := by
    have := @write_append (front ++ [0, 0]) [c, d] rest [0, 0] 36 (by simp [hfront]) rfl
    simpa using this
  have hsummed : slice (front ++ [0, 0, 0, 0] ++ rest) 34 (34 + (icmpEnd - icmpStart)) =
      some ([0, 0, 0, 0] ++ content) := by
    rw [slice_eq, ← hrest, ← List.append_assoc, List.append_assoc front]
    · exact congrArg some (span_append hfront (by simp; omega))
    · rw [← hrest]
      simp only [List.length_append, List.length_cons, List.length_nil, List.length_drop, hfront]
      omega
  have hchecked : ∀ check : List UInt8, check.length = 2 →
      write (front ++ [0, 0, 0, 0] ++ rest) 36 check = some (front ++ ([0, 0] ++ check) ++ rest) := by
    intro check hcheck
    have := @write_append (front ++ [0, 0]) [0, 0] rest check 36 (by simp [hfront]) hcheck.symm
    simpa using this
  unfold writeEchoReply
  simp only [Option.bind_eq_bind]
  rw [slice_eq (by omega), Option.bind_some, slice_eq (by omega), Option.bind_some,
    slice_eq (by omega), Option.bind_some, hdestination, Option.bind_some, hsource,
    Option.bind_some, hheader, Option.bind_some, hwritten, Option.bind_some, hread,
    Option.bind_some, hmoved, Option.bind_some, hkind, Option.bind_some, hcode, Option.bind_some,
    hcleared, Option.bind_some, hsummed, Option.bind_some, hchecked _ length_be16, ← hrest]
  simp only [List.append_assoc]
  rfl

theorem message_length (h : EchoRequest frame) :
    (message frame).length = totalLen frame - headerLen frame := by
  have htotal := h.total
  rw [message, length_span (by omega)]
  omega

theorem drop_message : (message frame).drop 4 =
    span frame (14 + headerLen frame + 4) (14 + totalLen frame) := by
  rw [message, span, List.drop_drop, span]

theorem headerBytes_length (h : sourceIp.length = 4) : (headerBytes length sourceIp).length = 20 := by
  simp [headerBytes, headerFront, apIpOctets, h]

theorem echoReply_answered (h : Answerable frame) : EchoReply frame
    (answered frame (34 + (message frame).length) ((message frame).drop 4))
    (34 + (message frame).length) := by
  have htotal := h.total
  have hheader := h.header
  have hsize : frame.length ≤ 1280 := h.size
  have hmessage := message_length h.toEchoRequest
  have hspan : ∀ i j, j ≤ frame.length → (span frame i j).length = j - i := fun _ _ => length_span
  have hcontent : ((message frame).drop 4).length = (message frame).length - 4 := List.length_drop
  have hhost := hspan 26 30 (by omega)
  generalize hlength : 34 + (message frame).length = length at *
  generalize hdrop : (message frame).drop 4 = content at *
  have hsum : checksum (headerBytes (length - 14) (span frame 26 30)) = 0 :=
    checksum_inserted ⟨5, by simp [headerFront]⟩
  have hecho : checksum ([0, 0] ++ be16 (checksum ([0, 0] ++ [0, 0] ++ content)) ++ content) = 0 :=
    checksum_inserted ⟨1, rfl⟩
  have hbytes :
      ([0, 0] ++ be16 (checksum ([0, 0] ++ [0, 0] ++ content)) ++ content).length = length - 34 := by
    simp
    omega
  have hip := @headerBytes_length (span frame 26 30) (length - 14) hhost
  have hfront : (span frame 6 12 ++ span frame 0 6).length = 12 := by
    rw [List.length_append, hspan 6 12 (by omega), hspan 0 6 (by omega)]
  have hmacs : (span frame 6 12 ++ span frame 0 6 ++ span frame 12 14).length = 14 := by
    rw [List.length_append, hfront, hspan 12 14 (by omega)]
  generalize hreply : answered frame length content = reply
  have hheaderSpan : span reply 14 34 = headerBytes (length - 14) (span frame 26 30) := by
    rw [← hreply, answered, List.append_assoc]
    exact span_append hmacs (by rw [hip])
  have hmessageSpan : span reply 34 length =
      [0, 0] ++ be16 (checksum ([0, 0] ++ [0, 0] ++ content)) ++ content := by
    rw [← hreply, answered]
    exact span_append (by rw [List.length_append, hmacs, hip]) (by rw [hbytes]; omega)
  have hheaderByte : ∀ i, i < 20 → byteAt reply (14 + i) =
      byteAt (headerBytes (length - 14) (span frame 26 30)) i := by
    intro i hi
    rw [← hheaderSpan, byteAt_span (by omega)]
  have hmessageByte : ∀ i, 34 + i < length → byteAt reply (34 + i) =
      byteAt ([0, 0] ++ be16 (checksum ([0, 0] ++ [0, 0] ++ content)) ++ content) i := by
    intro i hi
    rw [← hmessageSpan, byteAt_span hi]
  constructor
  · exact hlength.symm
  · rw [← hreply, answered]
    simp only [List.length_append, List.length_drop, hip] at hbytes hmacs ⊢
    omega
  · constructor
    · rw [← hreply, answered]
      simp only [List.append_assoc]
      exact @span_append [] (span frame 6 12) _ 0 6 rfl (by rw [hspan 6 12 (by omega)])
    · rw [← hreply, answered]
      simp only [List.append_assoc]
      rw [← List.append_assoc]
      exact span_append (hspan 6 12 (by omega)) (by rw [hspan 0 6 (by omega)])
  · rw [← hreply, answered, List.append_assoc, List.append_assoc, h.etherType]
    exact span_append hfront rfl
  · refine ⟨hheaderByte 0 (by decide), hheaderByte 9 (by decide), ?_⟩
    rw [hheaderByte 2 (by decide), hheaderByte 3 (by decide)]
    exact word_be16 (by omega)
  · constructor
    · have hinner := @span_span reply 12 14 16 34 (by decide)
      rw [hheaderSpan, headerBytes, ← List.append_assoc] at hinner
      rw [← hinner]
      exact @span_append (headerFront _ ++ be16 _) apIpOctets _ 12 16 (by simp [headerFront]) rfl
    · have hinner := @span_span reply 16 14 20 34 (by decide)
      rw [hheaderSpan, headerBytes, ← List.append_assoc] at hinner
      rw [← hinner, ← List.append_nil (_ ++ span frame 26 30)]
      exact @span_append (headerFront _ ++ be16 _ ++ apIpOctets) (span frame 26 30) [] 16 20
        (by simp [headerFront, apIpOctets]) (by rw [hhost])
  · rw [hheaderSpan]
    exact hsum
  · rw [hmessageSpan]
    exact hecho
  · exact ⟨hmessageByte 0 (by omega), hmessageByte 1 (by omega)⟩
  · have hinner := @span_span reply 4 34 (length - 34) length (by omega)
    rw [hmessageSpan, show 34 + (length - 34) = length by omega] at hinner
    rw [← hinner, hdrop, ← List.append_nil (_ ++ content)]
    exact @span_append ([0, 0] ++ be16 _) content [] 4 (length - 34) rfl (by omega)

/-- The window lets a reply through while it has room, or when it is over. -/
theorem allow_iff (rateLimit : IcmpRateLimit) (nowMs : UInt64) :
    (rateLimit.allow nowMs).1 = true ↔ rateLimit.Within nowMs := by
  have hlimit : ¬(0 : UInt8) ≥ echoReplyLimitPerSecond := by decide
  rw [IcmpRateLimit.allow, IcmpRateLimit.Within]
  by_cases hover : nowMs - rateLimit.windowStartedMs ≥ 1000
  · simp [hover, hlimit]
  · by_cases hfull : rateLimit.repliesInWindow ≥ echoReplyLimitPerSecond
    · simp [hover, hfull, UInt8.not_lt.mpr hfull]
    · simp [hover, hfull, UInt8.not_le.mp hfull]

end Answering

/-- No access is out of bounds; a frame is answered exactly if it is to be answered and the window
allows it; the answer is a reply, and any other outcome leaves the frame as it was. -/
theorem processIcmpEchoFrame_replies (frame : List UInt8) (nowMs : UInt64)
    (rateLimit : IcmpRateLimit) :
    ∃ disposition after window,
      processIcmpEchoFrame frame nowMs rateLimit = some (disposition, after, window) ∧
      ((∃ length, disposition = .reply length) ↔ Answerable frame ∧ rateLimit.Within nowMs) ∧
      (∀ length, disposition = .reply length → EchoReply frame after length) ∧
      ((∀ length, disposition ≠ .reply length) → after = frame) := by
  unfold processIcmpEchoFrame
  rcases findEchoRequest_found frame with ⟨disposition, hfound, hnot, hframe⟩ | ⟨hfound, hframe⟩
  · rw [hfound]
    refine ⟨disposition, frame, rateLimit, rfl, ?_, ?_, fun _ => rfl⟩
    · exact iff_of_false (fun h => hnot _ h.choose_spec) (fun h => hframe h.1)
    · exact fun length h => absurd h (hnot length)
  · rw [hfound]
    simp only [Option.bind_eq_bind, Option.bind_some, Option.pure_def]
    cases hallowed : (rateLimit.allow nowMs).1 with
    | false =>
      refine ⟨.rateLimited, frame, (rateLimit.allow nowMs).2, rfl, ?_, ?_, fun _ => rfl⟩
      · refine iff_of_false (fun h => ?_) (fun h => ?_)
        · cases h.choose_spec
        · rw [(allow_iff rateLimit nowMs).mpr h.2] at hallowed
          cases hallowed
      · exact fun length h => by cases h
    | true =>
      have hmessage := message_length hframe.toEchoRequest
      have htotal := hframe.total
      have hheader := hframe.header
      have hlength : 14 + totalLen frame - (14 + headerLen frame) = (message frame).length := by
        omega
      have hanswered := @writeEchoReply_eq frame (14 + headerLen frame) (14 + totalLen frame)
        (by omega) (by omega)
      rw [hlength, ← drop_message] at hanswered
      simp only [hanswered, hlength, Option.bind_some, Bool.not_true, Bool.false_eq_true, if_false]
      refine ⟨_, _, _, rfl, ?_, ?_, fun h => absurd rfl (h _)⟩
      · exact iff_of_true ⟨_, rfl⟩ ⟨hframe, (allow_iff rateLimit nowMs).mp hallowed⟩
      · rintro length h
        cases h
        exact echoReply_answered hframe

/-- A valid echo request whose source is a group address. -/
def groupRequest : List UInt8 :=
  [2, 0, 0, 0, 0, 1, 2, 0, 0, 0, 0, 2, 0x08, 0x00] ++
    [0x45, 0, 0, 28, 0, 0, 0, 0, 64, 1, 0xd6, 0x36, 224, 0, 0, 1, 192, 168, 4, 1] ++
    [8, 0, 0xf7, 0xff, 0, 0, 0, 0]

/-- It is not answered. -/
theorem groupRequest_dropped :
    EchoRequest groupRequest ∧ IcmpRateLimit.Within {} 1000 ∧
      processIcmpEchoFrame groupRequest 1000 {} = some (.dropped, groupRequest, {}) := by
  refine ⟨?_, .inr (by decide), by decide +kernel⟩
  constructor <;> decide +kernel

end Netherwick.Brainstem.Icmp
