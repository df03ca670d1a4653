import Netherwick.Brainstem.EventLog
import Netherwick.Lib.Text

/-! # Pages of events as text

A page is written into a buffer that is smaller on the hardware UART than on the other links. Every
page fits the larger one. -/

namespace Netherwick.Brainstem

open Netherwick.Lib

section Kinds

/-- The texts of the kinds, in the order of their codes. -/
def publicEventKindTexts : List String :=
  ["none", "boot", "command_accepted", "command_rejected", "command_started", "command_completed",
    "command_interrupted", "command_timed_out", "body_power_requested", "body_power_changed",
    "body_mode_requested", "body_mode_changed", "telemetry_received", "sensor_frame_decoded",
    "motion_requested", "motion_stopped", "safety_tripped", "safety_cleared", "bump_changed",
    "cliff_changed", "wheel_drop_latched", "wheel_drop_cleared", "wall_changed",
    "virtual_wall_changed", "battery_low", "charging_state_changed", "buttons_changed",
    "ir_changed", "heartbeat_expired", "estop_latched", "estop_cleared", "imu_frame_received",
    "imu_fault", "tilt_changed", "motion_inconsistency_detected", "impact_detected",
    "imu_calibration_changed", "error", "session_opened", "session_replaced", "session_rejected",
    "transport_changed", "peer_reboot_detected", "dhcp_lease_changed", "dns_registration_changed",
    "authority_changed", "motherbrain_reset_requested", "motherbrain_reset_asserted",
    "motherbrain_reset_completed", "motherbrain_reset_refused", "contact_withdrawal_started",
    "contact_withdrawal_completed", "command_renewed", "audio_state_changed"]

def publicEventKindText (code : UInt8) : String := publicEventKindTexts.getD code.toNat "none"

/-- The characters that kinds are written in. -/
def isKindChar (c : Char) : Bool := c == '_' || (97 ≤ c.toNat && c.toNat ≤ 122)

theorem publicEventKindText_mem (code : UInt8) :
    publicEventKindText code ∈ publicEventKindTexts := by
  unfold publicEventKindText
  rw [List.getD_eq_getElem?_getD]
  cases hfound : publicEventKindTexts[code.toNat]? with
  | none => exact List.mem_cons_self
  | some text => exact List.mem_of_getElem? hfound

theorem kindTexts_wellFormed :
    publicEventKindTexts.all (fun text =>
      text.toList.all isKindChar && !text.toList.isEmpty && text.toList.length ≤ 29) = true := by
  have hchars : ∀ text ∈ publicEventKindTexts, ∃ chars, text = String.ofList chars ∧
      (chars.all isKindChar && !chars.isEmpty && chars.length ≤ 29) = true := by
    simp only [publicEventKindTexts, List.forall_mem_cons]
    repeat' apply And.intro
    all_goals first | exact ⟨_, rfl, rfl⟩ | exact List.forall_mem_nil _
  rw [List.all_eq_true]
  intro text hmem
  obtain ⟨chars, rfl, hgood⟩ := hchars text hmem
  rw [String.toList_ofList]
  exact hgood

theorem publicEventKindText_wellFormed (code : UInt8) :
    (∀ c ∈ (publicEventKindText code).toList, isKindChar c = true) ∧
      (publicEventKindText code).toList ≠ [] ∧ (publicEventKindText code).toList.length ≤ 29 := by
  have hall := List.all_eq_true.mp kindTexts_wellFormed _ (publicEventKindText_mem code)
  simp only [Bool.and_eq_true, List.all_eq_true, Bool.not_eq_true', List.isEmpty_eq_false_iff,
    decide_eq_true_eq] at hall
  exact ⟨hall.1.1, hall.1.2, hall.2⟩

end Kinds

section Pages

def word (text : String) : List Char := text.toList

def number (value : UInt32) : List Char := Text.decimal value.toNat

def PublicEventRecord.pieces (record : PublicEventRecord) : List (List Char) :=
  [word " | ", number record.seq, word ":", word (publicEventKindText record.kind), word ":",
    number record.a, word ",", number record.b, word ",", number record.c]

/-- `write_compact_events`. -/
def EventLog.compactEvents (log : EventLog) (sinceSeq : UInt32) : List (List Char) :=
  let records := log.collectEventsSince sinceSeq
  [word "EVENTS since=", number sinceSeq, word " oldest=", number log.oldestSeq, word " next=",
    number (log.batchNextSeq records), word " dropped_before=",
    number (log.droppedBeforeSeq sinceSeq), word " count=", Text.decimal records.length] ++
  records.flatMap PublicEventRecord.pieces ++ [word "\n"]

/-- The hardware UART, and the links whose buffer holds 4096 bytes. -/
inductive EventLink
  | uart | stream
  deriving DecidableEq, Repr

def EventLink.capacity : EventLink → Nat
  | uart => 1024
  | stream => 4096

def okPrefix (seq : UInt32) : List (List Char) := [word "OK ", number seq, word " "]

/-- `write_forebrain_uart_events`, and the branch of `handle_compact_control_line`. -/
def EventLog.eventsReply (log : EventLog) (link : EventLink) (seq sinceSeq : UInt32) :
    List Char :=
  let response := (Text.writeAll link.capacity [] (okPrefix seq)).1
  let written := Text.writeAll link.capacity response (log.compactEvents sinceSeq)
  match link with
  | .uart =>
    if written.2 then written.1
    else word "ERR " ++ number seq ++ word " events_too_large\n"
  | .stream => written.1

/-- The reply in full. -/
def EventLog.eventsText (log : EventLog) (seq sinceSeq : UInt32) : List Char :=
  (okPrefix seq).flatten ++ (log.compactEvents sinceSeq).flatten

def EventLog.Fits (log : EventLog) (link : EventLink) (seq sinceSeq : UInt32) : Prop :=
  (log.eventsText seq sinceSeq).length ≤ link.capacity

theorem number_length (value : UInt32) : (number value).length ≤ 10 := by
  unfold number Text.decimal
  rw [Nat.length_toDigits_le_iff (by decide) (by decide)]
  exact Nat.lt_of_lt_of_le value.toNat_lt (by decide)

theorem okPrefix_length (seq : UInt32) : (okPrefix seq).flatten.length ≤ 14 := by
  have hseq := number_length seq
  simp only [okPrefix, word, List.flatten_cons, List.flatten_nil, List.append_nil,
    List.length_append, String.length_toList]
  have hok : "OK ".length = 3 := rfl
  have hspace : " ".length = 1 := rfl
  omega

theorem eventsReply_of_fits {log : EventLog} {link : EventLink} {seq sinceSeq : UInt32}
    (h : log.Fits link seq sinceSeq) :
    log.eventsReply link seq sinceSeq = log.eventsText seq sinceSeq := by
  unfold EventLog.Fits EventLog.eventsText at h
  rw [List.length_append] at h
  have hopening : Text.writeAll link.capacity [] (okPrefix seq) =
      ((okPrefix seq).flatten, true) := by
    apply Text.writeAll_fits
    rw [List.length_nil]
    omega
  have hevents : Text.writeAll link.capacity (okPrefix seq).flatten (log.compactEvents sinceSeq) =
      (log.eventsText seq sinceSeq, true) := Text.writeAll_fits h
  unfold EventLog.eventsReply
  simp only [hopening, hevents]
  cases link <;> rfl

theorem eventsReply_uart_of_not_fits {log : EventLog} {seq sinceSeq : UInt32}
    (h : ¬ log.Fits .uart seq sinceSeq) :
    log.eventsReply .uart seq sinceSeq =
      word "ERR " ++ number seq ++ word " events_too_large\n" := by
  unfold EventLog.Fits EventLog.eventsText at h
  rw [List.length_append] at h
  have hshort := okPrefix_length seq
  have hcapacity : EventLink.uart.capacity = 1024 := rfl
  have hopening : Text.writeAll EventLink.uart.capacity [] (okPrefix seq) =
      ((okPrefix seq).flatten, true) := by
    apply Text.writeAll_fits
    rw [List.length_nil]
    omega
  have hevents : (Text.writeAll EventLink.uart.capacity (okPrefix seq).flatten
      (log.compactEvents sinceSeq)).2 = false := by
    apply Text.writeAll_full
    · omega
    · omega
  unfold EventLog.eventsReply
  simp only [hopening, hevents]
  rfl

theorem pieces_length (record : PublicEventRecord) : record.pieces.flatten.length ≤ 76 := by
  have hseq := number_length record.seq
  have ha := number_length record.a
  have hb := number_length record.b
  have hc := number_length record.c
  have hkind := (publicEventKindText_wellFormed record.kind).2.2
  have hbar : (word " | ").length = 3 := rfl
  have hcolon : (word ":").length = 1 := rfl
  have hcomma : (word ",").length = 1 := rfl
  have htext : (word (publicEventKindText record.kind)).length ≤ 29 := hkind
  simp only [PublicEventRecord.pieces, List.flatten_cons, List.flatten_nil, List.append_nil,
    List.length_append]
  omega

theorem flatMap_pieces_length (records : List PublicEventRecord) :
    (records.flatMap PublicEventRecord.pieces).flatten.length ≤ 76 * records.length := by
  induction records with
  | nil => simp
  | cons record records ih =>
    have hrecord := pieces_length record
    rw [List.flatMap_cons, List.flatten_append, List.length_append, List.length_cons]
    omega

theorem collectEventsSince_length (log : EventLog) (sinceSeq : UInt32) :
    (log.collectEventsSince sinceSeq).length ≤ 16 := List.length_take_le _ _

theorem fits_stream (log : EventLog) (seq sinceSeq : UInt32) : log.Fits .stream seq sinceSeq := by
  have hopening := okPrefix_length seq
  have hrecords := flatMap_pieces_length (log.collectEventsSince sinceSeq)
  have hlength := collectEventsSince_length log sinceSeq
  have hsince := number_length sinceSeq
  have holdest := number_length log.oldestSeq
  have hnext := number_length (log.batchNextSeq (log.collectEventsSince sinceSeq))
  have hdropped := number_length (log.droppedBeforeSeq sinceSeq)
  have hcount : (Text.decimal (log.collectEventsSince sinceSeq).length).length ≤ 2 := by
    unfold Text.decimal
    rw [Nat.length_toDigits_le_iff (by decide) (by decide)]
    omega
  have hwords : (word "EVENTS since=").length + (word " oldest=").length +
      (word " next=").length + (word " dropped_before=").length + (word " count=").length +
      (word "\n").length = 13 + 8 + 6 + 16 + 7 + 1 := rfl
  have hcapacity : EventLink.stream.capacity = 4096 := rfl
  unfold EventLog.Fits EventLog.eventsText EventLog.compactEvents
  simp only [List.flatten_append, List.flatten_cons, List.flatten_nil, List.append_nil,
    List.length_append]
  omega

end Pages

end Netherwick.Brainstem
