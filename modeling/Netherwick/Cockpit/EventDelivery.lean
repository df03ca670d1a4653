import Netherwick.Brainstem.EventText
import Netherwick.Cockpit.Compact

/-! # Delivery of events

A cursor polls the firmware's event log. What a page says as text is read back as it was, and the
pages that a run of polls gets are the recorded events one after another. -/

namespace Netherwick.Cockpit

open Netherwick.Lib Netherwick.Brainstem

section Fields

def field (name : String) (value : UInt32) : List Char := name.toList ++ '=' :: number value

variable {name key : String} {value : UInt32} {rest : List Char}

theorem numberFor_field (hrest : ∀ c ∈ rest.head?, isWhiteSpace c = true) :
    numberFor (field name value ++ rest) name = some value := by
  have hvalue : ∀ c ∈ number value, isWhiteSpace c = false := fun _ hmem =>
    Text.isWhiteSpace_of_isDigit (Text.isDigit_of_mem_decimal hmem)
  have hfound : Text.valueFor (name.toList ++ '=' :: (number value ++ rest)) name.toList =
      some (number value) := Text.valueFor_field hvalue (Text.decimal_ne_nil _) hrest
  unfold numberFor field
  rw [List.append_assoc, List.cons_append, hfound]
  exact Text.parseU32_decimal value

theorem numberFor_skip (hkey : ' ' ∉ key.toList) (hname : '=' ∉ name.toList)
    (hother : ¬ key.toList <:+ name.toList) :
    numberFor (field name value ++ ' ' :: rest) key = numberFor rest key := by
  have hvalue : '=' ∉ number value := Text.not_mem_decimal (by decide)
  unfold numberFor field
  rw [Text.valueFor_skip hkey (Text.not_infix_field hname hvalue hother)]

end Fields

section Records

def delivered (record : PublicEventRecord) : CockpitEvent where
  seq := record.seq
  kind := .ofText (publicEventKindText record.kind)
  a := record.a
  b := record.b
  c := record.c

/-- A record between its bar and the next. -/
def body (record : PublicEventRecord) : List Char :=
  number record.seq ++ ':' :: ((publicEventKindText record.kind).toList ++ ':' ::
    (number record.a ++ ',' :: (number record.b ++ ',' :: number record.c)))

theorem isGraphic_of_isKindChar {c : Char} (h : isKindChar c = true) :
    Text.isGraphic c = true ∧ c ≠ ':' ∧ c ≠ '|' := by
  simp only [isKindChar, Bool.or_eq_true, beq_iff_eq, Bool.and_eq_true, decide_eq_true_eq] at h
  obtain rfl | ⟨hlower, hupper⟩ := h
  · decide
  · simp only [Text.isGraphic, Bool.and_eq_true, decide_eq_true_eq]
    refine ⟨by omega, ?_, ?_⟩
    · rintro rfl
      exact absurd hlower (by decide)
    · rintro rfl
      exact absurd hupper (by decide)

theorem mem_body {record : PublicEventRecord} {c : Char} (h : c ∈ body record) :
    Text.isGraphic c = true ∧ c ≠ '|' := by
  have hnumber (value : UInt32) (hmem : c ∈ number value) : Text.isGraphic c = true ∧ c ≠ '|' := by
    constructor
    · exact Text.isGraphic_of_mem_decimal hmem
    · rintro rfl
      exact Text.not_mem_decimal (by decide) hmem
  simp only [body, List.mem_append, List.mem_cons] at h
  obtain h | rfl | h | rfl | h | rfl | h | rfl | h := h
  · exact hnumber _ h
  · decide
  · have hkind := isGraphic_of_isKindChar ((publicEventKindText_wellFormed record.kind).1 c h)
    exact ⟨hkind.1, hkind.2.2⟩
  · decide
  · exact hnumber _ h
  · decide
  · exact hnumber _ h
  · decide
  · exact hnumber _ h

theorem body_ne_nil (record : PublicEventRecord) : body record ≠ [] := by
  simp [body, number, Text.decimal_ne_nil]

theorem trim_body (record : PublicEventRecord) : Text.trim (body record) = body record := by
  apply Text.trim_of_edges
  · intro c hmem
    exact Text.isWhiteSpace_of_isGraphic (mem_body (List.mem_of_mem_head? hmem)).1
  · intro c hmem
    exact Text.isWhiteSpace_of_isGraphic (mem_body (List.mem_of_getLast? hmem)).1

theorem parseEvent_of_trim {response chunk : List Char} {record : PublicEventRecord}
    (h : Text.trim chunk = body record) :
    parseEvent response chunk = .ok (delivered record) := by
  have hcolon (value : UInt32) : ':' ∉ number value := Text.not_mem_decimal (by decide)
  have hcomma (value : UInt32) : ',' ∉ number value := Text.not_mem_decimal (by decide)
  have hkind : ':' ∉ (publicEventKindText record.kind).toList := by
    intro hmem
    exact (isGraphic_of_isKindChar ((publicEventKindText_wellFormed record.kind).1 _ hmem)).2.1 rfl
  have hfields : (number record.a ++ ',' :: (number record.b ++ ',' :: number record.c)).splitOn ','
      = [number record.a, number record.b, number record.c] := by
    rw [List.splitOn_append_cons_self_of_not_mem (hcomma _),
      List.splitOn_append_cons_self_of_not_mem (hcomma _),
      List.splitOn_eq_singleton (hcomma _)]
  have hnumber (value : UInt32) : Text.parseU32 (number value) = some value :=
    Text.parseU32_decimal value
  unfold parseEvent
  rw [h]
  unfold body
  rw [Text.splitOnce_append (hcolon _)]
  simp only [required, bind, Except.bind]
  rw [Text.splitOnce_append hkind]
  simp only [hnumber, hfields, String.ofList_toList]
  rfl

/-- The records of a page behind what stands before its first bar. -/
def barred (records : List PublicEventRecord) : List Char :=
  records.flatMap fun record => " | ".toList ++ body record

/-- The parts between the bars. -/
def chunks (start : List Char) : List PublicEventRecord → List (List Char)
  | [] => [start]
  | record :: records => (start ++ [' ']) :: chunks (' ' :: body record) records

theorem splitOn_barred {start : List Char} (h : '|' ∉ start) (records : List PublicEventRecord) :
    (start ++ barred records).splitOn '|' = chunks start records := by
  induction records generalizing start with
  | nil =>
    rw [barred, List.flatMap_nil, List.append_nil]
    exact List.splitOn_eq_singleton h
  | cons record records ih =>
    have hspace : '|' ∉ start ++ [' '] := by
      simp [h]
    have hbody : '|' ∉ ' ' :: body record := by
      intro hmem
      obtain hspace | hmem := List.mem_cons.mp hmem
      · exact absurd hspace (by decide)
      · exact (mem_body hmem).2 rfl
    have hshape : start ++ barred (record :: records) =
        (start ++ [' ']) ++ '|' :: ((' ' :: body record) ++ barred records) := by
      simp [barred]
    rw [hshape, List.splitOn_append_cons_self_of_not_mem hspace, ih hbody]
    rfl

theorem trim_last (record : PublicEventRecord) :
    Text.trim (' ' :: body record) = body record := by
  rw [Text.trim_cons (by decide), trim_body]

theorem trim_followed (record : PublicEventRecord) :
    Text.trim (' ' :: body record ++ [' ']) = body record := by
  have hhead : ∀ c ∈ (body record).head?, isWhiteSpace c = false := fun _ hmem =>
    Text.isWhiteSpace_of_isGraphic (mem_body (List.mem_of_mem_head? hmem)).1
  rw [List.cons_append, Text.trim_cons (by decide),
    Text.trim_concat hhead (body_ne_nil _) (by decide), trim_body]

theorem mapM_chunks (response : List Char) (record : PublicEventRecord)
    (records : List PublicEventRecord) :
    (chunks (' ' :: body record) records).mapM (parseEvent response) =
      .ok ((record :: records).map delivered) := by
  induction records generalizing record with
  | nil =>
    rw [chunks, List.mapM_cons, parseEvent_of_trim (trim_last record)]
    rfl
  | cons next records ih =>
    rw [chunks, List.mapM_cons, parseEvent_of_trim (trim_followed record)]
    simp only [bind, Except.bind]
    rw [ih next]
    rfl

end Records

section Pages

/-- What a page says of itself. -/
def header (log : EventLog) (sinceSeq : UInt32) (rest : List Char) : List Char :=
  let records := log.collectEventsSince sinceSeq
  field "since" sinceSeq ++ ' ' :: (field "oldest" log.oldestSeq ++ ' ' ::
    (field "next" (log.batchNextSeq records) ++ ' ' ::
      (field "dropped_before" (log.droppedBeforeSeq sinceSeq) ++ ' ' ::
        (field "count" records.length.toUInt32 ++ rest))))

/-- The reply without its end. -/
def eventsLine (log : EventLog) (seq sinceSeq : UInt32) : List Char :=
  "OK".toList ++ ' ' :: (number seq ++ ' ' :: ("EVENTS".toList ++ ' ' ::
    header log sinceSeq (barred (log.collectEventsSince sinceSeq))))

theorem flatten_pieces (records : List PublicEventRecord) :
    (records.flatMap PublicEventRecord.pieces).flatten = barred records := by
  induction records with
  | nil => rfl
  | cons record records ih =>
    have hrecord : record.pieces.flatten = " | ".toList ++ body record := by
      simp [PublicEventRecord.pieces, word, body]
    rw [List.flatMap_cons, List.flatten_append, ih, hrecord]
    rfl

theorem eventsText_eq (log : EventLog) (seq sinceSeq : UInt32) :
    log.eventsText seq sinceSeq = eventsLine log seq sinceSeq ++ ['\n'] := by
  have hcount : (log.collectEventsSince sinceSeq).length.toUInt32.toNat =
      (log.collectEventsSince sinceSeq).length := by
    have hlength := collectEventsSince_length log sinceSeq
    rw [UInt32.toNat_ofNat']
    omega
  unfold EventLog.eventsText EventLog.compactEvents
  simp only [List.flatten_append, flatten_pieces]
  simp [okPrefix, eventsLine, header, field, word, number, hcount]

/-- What the client makes of a page. -/
def page (log : EventLog) (sinceSeq : UInt32) : EventBatch where
  sinceSeq := sinceSeq
  oldestSeq := log.oldestSeq
  nextSeq := log.batchNextSeq (log.collectEventsSince sinceSeq)
  droppedBeforeSeq := log.droppedBeforeSeq sinceSeq
  events := (log.collectEventsSince sinceSeq).map delivered

section Header

variable {log : EventLog} {sinceSeq : UInt32} {rest : List Char}

theorem header_append : header log sinceSeq rest = header log sinceSeq [] ++ rest := by
  simp [header]

theorem bar_not_mem_header : '|' ∉ header log sinceSeq [] := by
  have hnumber (value : UInt32) : '|' ∉ number value := Text.not_mem_decimal (by decide)
  simp [header, field, hnumber]

theorem numberFor_oldest : numberFor (header log sinceSeq rest) "oldest" = some log.oldestSeq := by
  unfold header
  rw [numberFor_skip (by decide) (by decide) (by decide)]
  apply numberFor_field
  simp [isWhiteSpace]

theorem numberFor_next : numberFor (header log sinceSeq rest) "next" =
    some (log.batchNextSeq (log.collectEventsSince sinceSeq)) := by
  unfold header
  rw [numberFor_skip (by decide) (by decide) (by decide),
    numberFor_skip (by decide) (by decide) (by decide)]
  apply numberFor_field
  simp [isWhiteSpace]

theorem numberFor_dropped : numberFor (header log sinceSeq rest) "dropped_before" =
    some (log.droppedBeforeSeq sinceSeq) := by
  unfold header
  rw [numberFor_skip (by decide) (by decide) (by decide),
    numberFor_skip (by decide) (by decide) (by decide),
    numberFor_skip (by decide) (by decide) (by decide)]
  apply numberFor_field
  simp [isWhiteSpace]

theorem numberFor_count (hrest : ∀ c ∈ rest.head?, isWhiteSpace c = true) :
    numberFor (header log sinceSeq rest) "count" =
      some (log.collectEventsSince sinceSeq).length.toUInt32 := by
  unfold header
  rw [numberFor_skip (by decide) (by decide) (by decide),
    numberFor_skip (by decide) (by decide) (by decide),
    numberFor_skip (by decide) (by decide) (by decide),
    numberFor_skip (by decide) (by decide) (by decide)]
  exact numberFor_field hrest

end Header

theorem expectOk_eventsLine (log : EventLog) (seq sinceSeq : UInt32) :
    expectOk seq (eventsLine log seq sinceSeq) = .ok () := by
  have hseq : ∀ c ∈ number seq, isAsciiWhiteSpace c = false := fun _ hmem =>
    Text.isAsciiWhiteSpace_of_isDigit (Text.isDigit_of_mem_decimal hmem)
  apply expectOk_of_words
  unfold eventsLine
  rw [Text.asciiWords_append (Text.isAsciiWhiteSpace_of_all (by decide)) (by decide) (by decide),
    Text.asciiWords_append hseq (Text.decimal_ne_nil _) (by decide)]
  rfl

theorem parse_chunks (log : EventLog) (sinceSeq : UInt32) (response : List Char) :
    ∃ tail, (∀ c ∈ tail.head?, isWhiteSpace c = true) ∧
      (chunks (header log sinceSeq []) (log.collectEventsSince sinceSeq)).head? =
        some (header log sinceSeq tail) ∧
      (chunks (header log sinceSeq []) (log.collectEventsSince sinceSeq)).tail.mapM
        (parseEvent response) = .ok ((log.collectEventsSince sinceSeq).map delivered) := by
  cases log.collectEventsSince sinceSeq with
  | nil => exact ⟨[], by simp, rfl, rfl⟩
  | cons record records =>
    refine ⟨[' '], by simp [isWhiteSpace], ?_, ?_⟩
    · rw [@header_append log sinceSeq [' ']]
      rfl
    · exact mapM_chunks response record records

theorem parseEvents_eventsLine (log : EventLog) (seq sinceSeq : UInt32) :
    parseEvents seq sinceSeq (eventsLine log seq sinceSeq) = .ok (page log sinceSeq) := by
  have hstrip : Text.stripPrefix
      ("OK ".toList ++ Text.decimal seq.toNat ++ " EVENTS ".toList)
      (eventsLine log seq sinceSeq) =
      some (header log sinceSeq (barred (log.collectEventsSince sinceSeq))) := by
    have hshape : eventsLine log seq sinceSeq =
        ("OK ".toList ++ Text.decimal seq.toNat ++ " EVENTS ".toList) ++
          header log sinceSeq (barred (log.collectEventsSince sinceSeq)) := by
      simp [eventsLine, number]
    rw [hshape]
    exact Text.stripPrefix_append
  have hsplit : (header log sinceSeq (barred (log.collectEventsSince sinceSeq))).splitOn '|' =
      chunks (header log sinceSeq []) (log.collectEventsSince sinceSeq) := by
    rw [header_append]
    exact splitOn_barred bar_not_mem_header _
  obtain ⟨tail, htail, hhead, hevents⟩ :=
    parse_chunks log sinceSeq (eventsLine log seq sinceSeq)
  have hcount : (log.collectEventsSince sinceSeq).length.toUInt32.toNat =
      (log.collectEventsSince sinceSeq).length := by
    have hlength := collectEventsSince_length log sinceSeq
    rw [UInt32.toNat_ofNat']
    omega
  unfold parseEvents
  rw [expectOk_eventsLine, hstrip]
  simp only [required, bind, Except.bind]
  rw [hsplit, hevents, List.headD_eq_head?_getD, hhead]
  simp only [Option.getD_some, numberFor_count htail, numberFor_oldest, numberFor_next,
    numberFor_dropped, Option.any_some, List.length_map, hcount, ne_eq, not_true_eq_false,
    decide_false, Bool.false_eq_true, if_false]
  rfl

end Pages

section Line

theorem not_mem_barred {c : Char} (hgraphic : Text.isGraphic c = false) (hspace : c ≠ ' ')
    (records : List PublicEventRecord) : c ∉ barred records := by
  unfold barred
  intro hmem
  obtain ⟨record, -, hmem⟩ := List.mem_flatMap.mp hmem
  obtain hmem | hmem := List.mem_append.mp hmem
  · have hbar : c = ' ' ∨ c = '|' ∨ c = ' ' := by
      simpa using hmem
    obtain rfl | rfl | rfl := hbar
    · exact hspace rfl
    · exact absurd hgraphic (by decide)
    · exact hspace rfl
  · rw [(mem_body hmem).1] at hgraphic
    cases hgraphic

theorem getLast_barred {start : List Char} (hne : start ≠ [])
    (hlast : ∀ c ∈ start.getLast?, isWhiteSpace c = false) (records : List PublicEventRecord) :
    ∀ c ∈ (start ++ barred records).getLast?, isWhiteSpace c = false := by
  induction records generalizing start with
  | nil => simpa [barred] using hlast
  | cons record records ih =>
    have hshape : start ++ barred (record :: records) =
        (start ++ " | ".toList ++ body record) ++ barred records := by
      simp [barred]
    rw [hshape]
    apply ih
    · simp
    · rw [List.getLast?_append_of_ne_nil _ (body_ne_nil record)]
      intro c hmem
      exact Text.isWhiteSpace_of_isGraphic (mem_body (List.mem_of_getLast? hmem)).1

theorem not_mem_eventsLine {c : Char} (hgraphic : Text.isGraphic c = false) (hspace : c ≠ ' ')
    (log : EventLog) (seq sinceSeq : UInt32) : c ∉ eventsLine log seq sinceSeq := by
  have hnumber (value : UInt32) : c ∉ number value := by
    intro hmem
    rw [Text.isGraphic_of_mem_decimal hmem] at hgraphic
    cases hgraphic
  have hwords : (("OK".toList ++ "EVENTS".toList ++ "since".toList ++ "oldest".toList ++
      "next".toList ++ "dropped_before".toList ++ "count".toList ++ ['=']).all
      Text.isGraphic) = true := by decide
  have hliteral : c ∉ "OK".toList ++ "EVENTS".toList ++ "since".toList ++ "oldest".toList ++
      "next".toList ++ "dropped_before".toList ++ "count".toList ++ ['='] := by
    intro hmem
    rw [List.all_eq_true.mp hwords c hmem] at hgraphic
    cases hgraphic
  have hbarred := not_mem_barred hgraphic hspace (log.collectEventsSince sinceSeq)
  simp only [List.mem_append, List.mem_singleton, not_or] at hliteral
  simp only [eventsLine, header, field, List.mem_append, List.mem_cons, hnumber, hliteral, hspace,
    hbarred, or_self, not_false_eq_true]

theorem eventsLine_shape (log : EventLog) (seq sinceSeq : UInt32) :
    ∃ start, eventsLine log seq sinceSeq =
      (start ++ number (log.collectEventsSince sinceSeq).length.toUInt32) ++
        barred (log.collectEventsSince sinceSeq) := by
  refine ⟨"OK".toList ++ ' ' :: (number seq ++ ' ' :: ("EVENTS".toList ++ ' ' ::
    (field "since" sinceSeq ++ ' ' :: (field "oldest" log.oldestSeq ++ ' ' ::
      (field "next" (log.batchNextSeq (log.collectEventsSince sinceSeq)) ++ ' ' ::
        (field "dropped_before" (log.droppedBeforeSeq sinceSeq) ++ ' ' ::
          ("count".toList ++ ['=']))))))), ?_⟩
  simp [eventsLine, header, field]

theorem readLineResponse_eventsText (log : EventLog) (seq sinceSeq : UInt32) :
    readLineResponse (log.eventsText seq sinceSeq) = .ok (eventsLine log seq sinceSeq) := by
  have hlength := fits_stream log seq sinceSeq
  unfold EventLog.Fits at hlength
  rw [eventsText_eq, List.length_append] at hlength
  rw [eventsText_eq]
  apply readLineResponse_of_line
  · exact not_mem_eventsLine (by decide) (by decide) log seq sinceSeq
  · exact not_mem_eventsLine (by decide) (by decide) log seq sinceSeq
  · intro c hmem
    cases hmem
    decide
  · obtain ⟨start, hshape⟩ := eventsLine_shape log seq sinceSeq
    rw [hshape]
    apply getLast_barred
    · simp [number, Text.decimal_ne_nil]
    · unfold number
      rw [List.getLast?_append_of_ne_nil _ (Text.decimal_ne_nil _)]
      intro c hmem
      exact Text.isWhiteSpace_of_isGraphic
        (Text.isGraphic_of_mem_decimal (List.mem_of_getLast? hmem))
  · have hcapacity : EventLink.stream.capacity = 4096 := rfl
    have hmax : defaultUartMaxResponseLen = 4096 := rfl
    omega

end Line

section Cursor

/-- `get_events_since` of a serial client, answered over a link of the firmware. -/
def getEventsSince (log : EventLog) (link : EventLink) (seq sinceSeq : UInt32) :
    Except CockpitError EventBatch := do
  let response ← readLineResponse (log.eventsReply link seq sinceSeq)
  parseEvents seq sinceSeq response

def EventBatch.ensureNoMissedEvents (batch : EventBatch) : Except CockpitError Unit :=
  if batch.droppedBeforeSeq = 0 then .ok () else .error (.missedEvents batch.droppedBeforeSeq)

structure EventCursor where
  nextSeq : UInt32 := 0

def EventCursor.fromEventNextSeq (nextSeq : UInt32) : EventCursor where
  nextSeq := saturatingSub nextSeq 1

def EventCursor.poll (cursor : EventCursor)
    (getEventsSince : UInt32 → Except CockpitError EventBatch) :
    Except CockpitError EventBatch × EventCursor :=
  match getEventsSince cursor.nextSeq with
  | .error error => (.error error, cursor)
  | .ok batch =>
    match batch.ensureNoMissedEvents with
    | .error error => (.error error, cursor)
    | .ok _ => (.ok batch, { nextSeq := saturatingSub batch.nextSeq 1 })

theorem getEventsSince_of_fits {log : EventLog} {link : EventLink} {seq sinceSeq : UInt32}
    (h : log.Fits link seq sinceSeq) :
    getEventsSince log link seq sinceSeq = .ok (page log sinceSeq) := by
  unfold getEventsSince
  rw [eventsReply_of_fits h, readLineResponse_eventsText]
  exact parseEvents_eventsLine log seq sinceSeq

/-- The error that stands for a page, without its end. -/
def tooLargeLine (seq : UInt32) : List Char :=
  "ERR".toList ++ ' ' :: (number seq ++ ' ' :: "events_too_large".toList)

theorem readLineResponse_tooLarge (seq : UInt32) :
    readLineResponse (word "ERR " ++ number seq ++ word " events_too_large\n") =
      .ok (tooLargeLine seq) := by
  have hshape : word "ERR " ++ number seq ++ word " events_too_large\n" =
      tooLargeLine seq ++ ['\n'] := by
    simp [tooLargeLine, word]
  have hseq := number_length seq
  have hnumber {c : Char} (h : c.isDigit = false) : c ∉ number seq := Text.not_mem_decimal h
  rw [hshape]
  apply readLineResponse_of_line
  · have habsent : '\n' ∉ number seq := hnumber (by decide)
    simp [tooLargeLine, habsent]
  · have habsent : '\r' ∉ number seq := hnumber (by decide)
    simp [tooLargeLine, habsent]
  · intro c hmem
    cases hmem
    decide
  · have hlast : tooLargeLine seq =
        ("ERR ".toList ++ (number seq ++ " events_too_larg".toList)) ++ ['e'] := by
      simp [tooLargeLine]
    rw [hlast, List.getLast?_concat]
    intro c hmem
    cases hmem
    decide
  · have hmax : defaultUartMaxResponseLen = 4096 := rfl
    have hreason : "events_too_large".toList.length = 16 := rfl
    have herr : "ERR".toList.length = 3 := rfl
    unfold tooLargeLine
    rw [List.length_append, List.length_cons, List.length_append, List.length_cons]
    omega

theorem parseEvents_tooLarge (seq sinceSeq : UInt32) :
    parseEvents seq sinceSeq (tooLargeLine seq) = badResponse (tooLargeLine seq) := by
  have hseq : ∀ c ∈ number seq, isAsciiWhiteSpace c = false := fun _ hmem =>
    Text.isAsciiWhiteSpace_of_isDigit (Text.isDigit_of_mem_decimal hmem)
  have hwords : Text.asciiWords (tooLargeLine seq) =
      "ERR".toList :: number seq :: "events_too_large".toList :: [] := by
    unfold tooLargeLine
    rw [Text.asciiWords_append (Text.isAsciiWhiteSpace_of_all (by decide)) (by decide) (by decide),
      Text.asciiWords_append hseq (Text.decimal_ne_nil _) (by decide)]
    rfl
  unfold parseEvents
  rw [expectOk_of_unknown_reason hwords (by decide)]
  rfl

theorem getEventsSince_of_not_fits {log : EventLog} {link : EventLink} {seq sinceSeq : UInt32}
    (h : ¬ log.Fits link seq sinceSeq) :
    ∃ response, getEventsSince log link seq sinceSeq = .error (.badResponse response) := by
  cases link with
  | stream => exact absurd (fits_stream log seq sinceSeq) h
  | uart =>
    unfold getEventsSince
    rw [eventsReply_uart_of_not_fits h, readLineResponse_tooLarge]
    exact ⟨_, parseEvents_tooLarge seq sinceSeq⟩

theorem poll_of_fits {log : EventLog} {link : EventLink} {seq : UInt32} {cursor : EventCursor}
    (h : log.Fits link seq cursor.nextSeq) :
    cursor.poll (getEventsSince log link seq) =
      if log.droppedBeforeSeq cursor.nextSeq = 0 then
        (.ok (page log cursor.nextSeq),
          { nextSeq := saturatingSub (page log cursor.nextSeq).nextSeq 1 })
      else (.error (.missedEvents (log.droppedBeforeSeq cursor.nextSeq)), cursor) := by
  unfold EventCursor.poll
  rw [getEventsSince_of_fits h]
  unfold EventBatch.ensureNoMissedEvents page
  simp only
  split
  · rename_i hmissed
    split at hmissed
    · cases hmissed
    · rename_i hdropped
      rw [if_neg hdropped]
      cases hmissed
      rfl
  · rename_i hkept
    split at hkept
    · rename_i hdropped
      rw [if_pos hdropped]
    · cases hkept

theorem poll_of_not_fits {log : EventLog} {link : EventLink} {seq : UInt32} {cursor : EventCursor}
    (h : ¬ log.Fits link seq cursor.nextSeq) :
    ∃ response, cursor.poll (getEventsSince log link seq) =
      (.error (.badResponse response), cursor) := by
  obtain ⟨response, hbad⟩ := getEventsSince_of_not_fits h
  unfold EventCursor.poll
  rw [hbad]
  exact ⟨response, rfl⟩

end Cursor

section Runs

structure Watch where
  log : EventLog
  cursor : EventCursor
  recorded : List EventRecord
  delivered : List CockpitEvent

inductive WatchStep
  | record (event : EventRecord)
  | poll (link : EventLink) (seq : UInt32)

inductive CursorStart
  | new | current

def CursorStart.cursor (log : EventLog) : CursorStart → EventCursor
  | new => {}
  | current => .fromEventNextSeq log.nextSeq

def eventsOf : Except CockpitError EventBatch → List CockpitEvent
  | .ok batch => batch.events
  | .error _ => []

namespace Watch

def start (earlier : List EventRecord) (kind : CursorStart) : Watch :=
  let log := earlier.foldl EventLog.record {}
  { log := log, cursor := kind.cursor log, recorded := earlier, delivered := [] }

def step (watch : Watch) : WatchStep → Watch
  | .record event =>
    { watch with log := watch.log.record event, recorded := watch.recorded ++ [event] }
  | .poll link seq =>
    let polled := watch.cursor.poll (getEventsSince watch.log link seq)
    { watch with cursor := polled.2, delivered := watch.delivered ++ eventsOf polled.1 }

def run (watch : Watch) (steps : List WatchStep) : Watch := steps.foldl step watch

/-- The delivered events are the ones that were recorded after the first so many, in order, and the
cursor stands behind the last of them. -/
structure Contiguous (watch : Watch) (first : Nat) : Prop where
  behind : first ≤ watch.cursor.nextSeq.toNat
  reached : watch.cursor.nextSeq.toNat ≤ watch.recorded.length
  events : watch.delivered = (((numberedEvents watch.recorded).drop first).take
    (watch.cursor.nextSeq.toNat - first)).map Cockpit.delivered

/-- An event that the cursor has not delivered is no longer in the ring. -/
def Overwritten (watch : Watch) : Prop :=
  ∃ n, watch.cursor.nextSeq.toNat ≤ n ∧ n < watch.recorded.length ∧
    watch.log.lookup (UInt32.ofNat (n + 1)) = none

def Reports (watch : Watch) (link : EventLink) (seq : UInt32) : Prop :=
  ∃ dropped, watch.cursor.poll (getEventsSince watch.log link seq) =
    (.error (.missedEvents dropped), watch.cursor)

/-- The invariant of a run. -/
structure Sound (watch : Watch) (first : Nat) : Prop where
  keeps : watch.log.Keeps watch.recorded
  contiguous : watch.Contiguous first

variable {watch : Watch} {first : Nat}

theorem overwritten_iff (h : watch.Sound first) :
    watch.Overwritten ↔
      watch.cursor.nextSeq.toNat + eventLogCapacity < watch.recorded.length := by
  constructor
  · rintro ⟨n, hcursor, hn, hnone⟩
    by_contra hkept
    have hfound := EventLog.lookup_eq h.keeps (List.getElem?_eq_getElem hn) (by omega)
    rw [hnone] at hfound
    cases hfound
  · intro hlost
    exact ⟨_, le_refl _, by omega, EventLog.lookup_eq_none h.keeps hlost⟩

theorem Contiguous.record (h : watch.Contiguous first) (event : EventRecord) :
    (watch.step (.record event)).Contiguous first := by
  have hreached := h.reached
  have hbehind := h.behind
  have hlength : (numberedEvents watch.recorded).length = watch.recorded.length := by
    simp [numberedEvents]
  constructor
  · exact hbehind
  · simp only [step, List.length_append, List.length_singleton]
    omega
  · have hgrown : numberedEvents (watch.recorded ++ [event]) =
        numberedEvents watch.recorded ++ [numbered watch.recorded.length event] := by
      simp [numberedEvents]
    simp only [step]
    rw [hgrown, List.drop_append_of_le_length (by omega),
      List.take_append_of_le_length (by rw [List.length_drop]; omega)]
    exact h.events

theorem Sound.record (h : watch.Sound first) {event : EventRecord}
    (hroom : watch.recorded.length + 1 < 4294967295) :
    (watch.step (.record event)).Sound first where
  keeps := by
    apply EventLog.keeps_record h.keeps
    intro hmax
    have hnext := h.keeps.next
    have hlast : (0xFFFFFFFF : UInt32).toNat = 4294967295 := rfl
    rw [hmax, hlast] at hnext
    omega
  contiguous := h.contiguous.record event

theorem Contiguous.page (h : watch.Sound first)
    (hkept : watch.log.droppedBeforeSeq watch.cursor.nextSeq = 0) :
    Contiguous { watch with
      cursor := { nextSeq := saturatingSub (page watch.log watch.cursor.nextSeq).nextSeq 1 }
      delivered := watch.delivered ++ (page watch.log watch.cursor.nextSeq).events } first := by
  have hreached := h.contiguous.reached
  have hbehind := h.contiguous.behind
  have hring : watch.recorded.length ≤ watch.cursor.nextSeq.toNat + eventLogCapacity := by
    by_contra hlost
    exact (EventLog.droppedBeforeSeq_ne_zero_iff h.keeps _).mpr (by omega) hkept
  have hcollect := EventLog.collectEventsSince_eq h.keeps hreached hring
  have hnext := EventLog.batchNextSeq_toNat h.keeps hreached hring
  have hlength : (numberedEvents watch.recorded).length = watch.recorded.length := by
    simp [numberedEvents]
  have hpage : (watch.log.collectEventsSince watch.cursor.nextSeq).length =
      min eventResponseCapacity (watch.recorded.length - watch.cursor.nextSeq.toNat) := by
    rw [hcollect, List.length_take, List.length_drop, hlength]
  have hcursor : (saturatingSub (Cockpit.page watch.log watch.cursor.nextSeq).nextSeq 1).toNat =
      watch.cursor.nextSeq.toNat +
        (watch.log.collectEventsSince watch.cursor.nextSeq).length := by
    have hone : (1 : UInt32).toNat = 1 := rfl
    unfold Cockpit.page
    rw [saturatingSub_toNat, hnext, hone]
    omega
  have htake : watch.log.collectEventsSince watch.cursor.nextSeq =
      ((numberedEvents watch.recorded).drop watch.cursor.nextSeq.toNat).take
        (watch.log.collectEventsSince watch.cursor.nextSeq).length := by
    rw [hpage]
    rw [hcollect, List.take_eq_take_iff, List.length_drop, hlength]
    omega
  constructor
  · simp only
    rw [hcursor]
    omega
  · simp only
    rw [hcursor, hpage]
    omega
  · have hevents : (Cockpit.page watch.log watch.cursor.nextSeq).events =
        (((numberedEvents watch.recorded).drop watch.cursor.nextSeq.toNat).take
          (watch.log.collectEventsSince watch.cursor.nextSeq).length).map Cockpit.delivered :=
      congrArg (List.map Cockpit.delivered) htake
    have hsplit : watch.cursor.nextSeq.toNat +
        (watch.log.collectEventsSince watch.cursor.nextSeq).length - first =
        (watch.cursor.nextSeq.toNat - first) +
          (watch.log.collectEventsSince watch.cursor.nextSeq).length := by
      omega
    simp only
    rw [hcursor, hsplit, List.take_add, List.map_append, ← h.contiguous.events, hevents,
      List.drop_drop, Nat.add_sub_of_le hbehind]

theorem Sound.poll (h : watch.Sound first) (link : EventLink) (seq : UInt32) :
    (watch.step (.poll link seq)).Sound first where
  keeps := h.keeps
  contiguous := by
    have hunchanged (error : CockpitError)
        (hpoll : watch.cursor.poll (getEventsSince watch.log link seq) =
          (.error error, watch.cursor)) :
        (watch.step (.poll link seq)).Contiguous first := by
      unfold step
      simp only [hpoll, eventsOf, List.append_nil]
      exact h.contiguous
    by_cases hfits : watch.log.Fits link seq watch.cursor.nextSeq
    · have hpoll := poll_of_fits hfits
      split at hpoll
      · rename_i hkept
        unfold step
        simp only [hpoll, eventsOf]
        exact Contiguous.page h hkept
      · exact hunchanged _ hpoll
    · obtain ⟨response, hpoll⟩ := poll_of_not_fits hfits
      exact hunchanged _ hpoll

theorem length_recorded_step (watch : Watch) (step : WatchStep) :
    watch.recorded.length ≤ (watch.step step).recorded.length := by
  cases step with
  | record event => simp [Watch.step]
  | poll link seq => exact le_refl _

theorem length_recorded_run (watch : Watch) (steps : List WatchStep) :
    watch.recorded.length ≤ (watch.run steps).recorded.length := by
  induction steps generalizing watch with
  | nil => exact le_refl _
  | cons step steps ih => exact (length_recorded_step watch step).trans (ih (watch.step step))

theorem Sound.run (h : watch.Sound first) (steps : List WatchStep)
    (hroom : (watch.run steps).recorded.length < 4294967295) :
    (watch.run steps).Sound first := by
  induction steps generalizing watch with
  | nil => exact h
  | cons step steps ih =>
    apply ih ?_ hroom
    cases step with
    | record event =>
      apply h.record
      have hlength := length_recorded_run (watch.step (.record event)) steps
      have hstep : (watch.step (.record event)).recorded.length = watch.recorded.length + 1 := by
        simp [Watch.step]
      exact (hstep ▸ hlength).trans_lt hroom
    | poll link seq => exact h.poll link seq

theorem sound_start (earlier : List EventRecord) (kind : CursorStart)
    (hroom : earlier.length < 4294967295) :
    (start earlier kind).Sound (start earlier kind).cursor.nextSeq.toNat := by
  have hkeeps : (earlier.foldl EventLog.record {}).Keeps earlier := by
    have hfold := EventLog.keeps_foldl EventLog.keeps_start earlier (by simpa using hroom)
    simpa using hfold
  constructor
  · exact hkeeps
  · constructor
    · exact le_refl _
    · cases kind with
      | new => exact Nat.zero_le _
      | current =>
        have hone : (1 : UInt32).toNat = 1 := rfl
        simp only [start, CursorStart.cursor, EventCursor.fromEventNextSeq]
        rw [saturatingSub_toNat, hkeeps.next, hone]
        omega
    · rw [Nat.sub_self]
      rfl

/-- In every run the delivered events are contiguous, and a poll behind the ring reports what was
missed, exactly when its page, if it is behind the ring, fits the buffer of the link. -/
theorem run_delivers_iff (earlier : List EventRecord) (kind : CursorStart)
    (steps : List WatchStep) (link : EventLink) (seq : UInt32)
    (h : ((start earlier kind).run steps).recorded.length < 4294967295) :
    (((start earlier kind).run steps).Contiguous
        (start earlier kind).cursor.nextSeq.toNat ∧
      (((start earlier kind).run steps).Overwritten →
        ((start earlier kind).run steps).Reports link seq)) ↔
      (((start earlier kind).run steps).Overwritten →
        ((start earlier kind).run steps).log.Fits link seq
          ((start earlier kind).run steps).cursor.nextSeq) := by
  have hearlier := length_recorded_run (start earlier kind) steps
  have hsound := (sound_start earlier kind (hearlier.trans_lt h)).run steps h
  generalize (start earlier kind).run steps = watch at hsound
  constructor
  · rintro ⟨-, hreports⟩ hover
    by_contra hfits
    obtain ⟨dropped, hmissed⟩ := hreports hover
    obtain ⟨response, hbad⟩ := poll_of_not_fits hfits
    rw [hbad] at hmissed
    cases hmissed
  · intro hfits
    refine ⟨hsound.contiguous, fun hover => ?_⟩
    have hdropped : watch.log.droppedBeforeSeq watch.cursor.nextSeq ≠ 0 :=
      (EventLog.droppedBeforeSeq_ne_zero_iff hsound.keeps _).mpr ((overwritten_iff hsound).mp hover)
    have hpoll := poll_of_fits (hfits hover)
    rw [if_neg hdropped] at hpoll
    exact ⟨_, hpoll⟩

/-- An event is recorded and polled over USB. -/
theorem run_delivers_one :
    ((start [] .new).run [.record ⟨1, 0, 0, 0⟩, .poll .stream 1]).Contiguous 0 :=
  ((run_delivers_iff [] .new [.record ⟨1, 0, 0, 0⟩, .poll .stream 1] .stream 2 (by decide)).mpr
    fun _ => fits_stream _ _ _).1

end Watch

section TooLarge

/-- An event whose text is long: a reset of the motherbrain is requested, with a command number and
two hashes. -/
def longEvent : EventRecord :=
  { kind := 46, a := 0xFFFFFFFF, b := 0xFFFFFFFF, c := 0xFFFFFFFF }

/-- A new cursor polls over the hardware UART, when the ring has lost events that it has not
seen. -/
theorem uart_page_too_large :
    ¬ (((Watch.start (List.replicate 200 longEvent) .new).run []).Contiguous
        (Watch.start (List.replicate 200 longEvent) .new).cursor.nextSeq.toNat ∧
      (((Watch.start (List.replicate 200 longEvent) .new).run []).Overwritten →
        ((Watch.start (List.replicate 200 longEvent) .new).run []).Reports .uart 1)) := by
  intro h
  have hfits : ¬ ((List.replicate 200 longEvent).foldl EventLog.record {}).Fits .uart 1 0 := by
    unfold EventLog.Fits
    decide +kernel
  have hlength : (List.replicate 200 longEvent).length = 200 := List.length_replicate
  have hsound := Watch.sound_start (List.replicate 200 longEvent) .new (by omega)
  have hover : (Watch.start (List.replicate 200 longEvent) .new).Overwritten := by
    rw [Watch.overwritten_iff hsound]
    change 0 + 128 < (List.replicate 200 longEvent).length
    omega
  obtain ⟨dropped, hmissed⟩ := h.2 hover
  obtain ⟨response, hbad⟩ := @poll_of_not_fits _ _ 1 {} hfits
  have hsame : (Except.error (.badResponse response), ({} : EventCursor)) =
      ((Except.error (.missedEvents dropped) : Except CockpitError EventBatch), {}) :=
    hbad.symm.trans hmissed
  cases hsame

end TooLarge

end Runs

end Netherwick.Cockpit
