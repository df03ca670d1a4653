import Netherwick.Lib.Fifo
import Netherwick.Cockpit.Compact
import Netherwick.Cockpit.Handshake

/-! # Which answer a serial client reads

The client writes one line and reads one line. The link keeps the order of the answers, and each may
arrive after the read that waits for it gave up. A line is what `read_line_response` makes of it:
complete, short enough, and trimmed. -/

namespace Netherwick.Cockpit

open Netherwick.Lib

section Requests

/-- What a request that was written waits for. -/
inductive Awaited
  | reply (seq : UInt32) (request : CockpitRequest)
  | welcome (hello : HandshakeHello)

/-- A reply starts with its verdict and the sequence number of its request. -/
def Replies (seq : UInt32) (line : List Char) : Prop :=
  ∃ verdict rest, Text.asciiWords line = verdict :: Text.decimal seq.toNat :: rest ∧
    (verdict = "OK".toList ∨ verdict = "ERR".toList)

/-- The firmware's answer to a hello is a frame, or an error line when it has none. -/
def Welcomes (line : List Char) : Prop :=
  (Text.asciiWords line).head? = some "WELCOME".toList ∨
    (Text.asciiWords line).head? = some "REJECT".toList ∨ line = "ERR 0 handshake".toList

theorem replies_of_words {seq : UInt32} {verdict tail : List Char}
    (hverdict : verdict = "OK".toList ∨ verdict = "ERR".toList) {rest : List (List Char)}
    (htail : Text.asciiWords tail = Text.decimal seq.toNat :: rest) :
    Replies seq (verdict ++ ' ' :: tail) := by
  have hword : ∀ c ∈ verdict, isAsciiWhiteSpace c = false := by
    apply Text.isAsciiWhiteSpace_of_all
    obtain rfl | rfl := hverdict <;> decide
  have hne : verdict ≠ [] := by
    obtain rfl | rfl := hverdict <;> decide
  refine ⟨verdict, rest, ?_, hverdict⟩
  rw [Text.asciiWords_append hword hne (by decide), htail]

/-- The bare reply to a command. -/
def okReply (seq : UInt32) : {line : List Char // Replies seq line} where
  val := "OK".toList ++ ' ' :: Text.decimal seq.toNat
  property := replies_of_words (Or.inl rfl) (Text.asciiWords_single
    (fun _ hmem => Text.isAsciiWhiteSpace_of_isDigit (Text.isDigit_of_mem_decimal hmem))
    (Text.decimal_ne_nil _))

def Awaited.AnsweredBy : Awaited → List Char → Prop
  | reply seq _, line => Replies seq line
  | welcome _, line => Welcomes line

/-- A line of the firmware, and the request that it answers: the `turn`-th one. -/
structure Answer where
  turn : Nat
  request : Awaited
  line : List Char
  answers : request.AnsweredBy line

/-- What a call returns. `timedOut` is the error of a read that nothing arrived for. -/
inductive Returned
  | response (value : CockpitResponse)
  | session (outcome : HandshakeOutcome)
  | failed (error : CockpitError)
  | timedOut
  | panicked

/-- The results that stand for an answer. The others say that the line read was none. -/
def Returned.conclusive : Returned → Bool
  | response _ | session _ | failed (.rejected ..) | failed (.handshakeRejected _) => true
  | _ => false

variable (json : Json) (debugText : String → String)

def Returned.ofResponse : Except CockpitError CockpitResponse → Returned
  | .ok value => .response value
  | .error error => .failed error

def Returned.ofOutcome : Option (Except CockpitError HandshakeOutcome) → Returned
  | some (.ok outcome) => .session outcome
  | some (.error error) => .failed error
  | none => .panicked

/-- How a call reads a line. -/
def Awaited.interpret : Awaited → List Char → Returned
  | reply seq request, line => .ofResponse (parseCompactCockpitResponse json seq request line)
  | welcome hello, line =>
    match decodeCompactResponse json line with
    | .ok response => .ofOutcome (HandshakeOutcome.validate debugText hello response)
    | .error error => .failed error

end Requests

section Link

/-- A call, what the firmware answers if it gets a request, and how many of the lines in flight
arrive before the call's read gives up. The three calls that name a session differ in the line they
write. -/
inductive Turn
  | execute (session : Option CockpitSession) (request : CockpitRequest)
      (answer : (seq : UInt32) → {line : List Char // Replies seq line}) (arrivals : Nat)
  | handshake (hello : HandshakeHello) (answer : {line : List Char // Welcomes line})
      (arrivals : Nat)

structure UartCockpit where
  nextSeq : UInt32 := 1
  activeSessionId : Option String := none

structure UartLink where
  cockpit : UartCockpit := {}
  lines : Fifo Answer := {}
  turn : Nat := 0

/-- A request that was written, its own answer, and what the receive buffer holds of it and of
others before the read gives up. -/
structure UartExchange where
  own : Answer
  arrived : List Answer

def UartExchange.read (exchange : UartExchange) : Option Answer := exchange.arrived.head?

variable (json : Json) (debugText : String → String)

def UartExchange.returned (exchange : UartExchange) : Returned :=
  match exchange.read with
  | some answer => exchange.own.request.interpret json debugText answer.line
  | none => .timedOut

/-- `ensure_connector_session`. -/
def UartCockpit.names (cockpit : UartCockpit) : Option CockpitSession → Bool
  | none => true
  | some session => cockpit.activeSessionId == some session.sessionId

/-- The client's memory after a call returned. -/
def UartCockpit.after (cockpit : UartCockpit) : Returned → UartCockpit
  | .session outcome => { cockpit with activeSessionId := some outcome.session.sessionId }
  | _ => cockpit

/-- The lines when the read of a request begins to take one. -/
def UartLink.awaited (link : UartLink) (own : Answer) (arrivals : Nat) : Fifo Answer :=
  (link.lines.send own).deliver arrivals

/-- `request`: the line goes out, its answer is sent some time, and one line is read. -/
def UartLink.request (link : UartLink) (cockpit : UartCockpit) (own : Answer) (arrivals : Nat) :
    UartLink × List UartExchange :=
  let lines := link.awaited own arrivals
  let exchange : UartExchange := { own := own, arrived := lines.arrived }
  ({ cockpit := cockpit.after (exchange.returned json debugText)
     lines := lines.read
     turn := link.turn + 1 }, [exchange])

def UartLink.step (link : UartLink) : Turn → UartLink × List UartExchange
  | .execute session request answer arrivals =>
    if link.cockpit.names session then
      let seq := link.cockpit.nextSeq
      link.request json debugText { link.cockpit with nextSeq := max (seq + 1) 1 }
        { turn := link.turn, request := .reply seq request, line := (answer seq).val
          answers := (answer seq).property } arrivals
    else ({ link with lines := link.lines.deliver arrivals }, [])
  | .handshake hello answer arrivals =>
    link.request json debugText link.cockpit
      { turn := link.turn, request := .welcome hello, line := answer.val
        answers := answer.property } arrivals

def UartLink.run (link : UartLink) : List Turn → List UartExchange
  | [] => []
  | turn :: turns =>
    let stepped := link.step json debugText turn
    stepped.2 ++ stepped.1.run turns

end Link

section Foreign

variable (json : Json) (debugText : String → String)

/-- A refusal names no hello, and a welcome names only the nonce of its own. -/
def HandshakeResponse.Fits (hello : HandshakeHello) : HandshakeResponse → Prop
  | .reject _ => True
  | .welcome frame => frame.echoedHandshakeNonce = hello.handshakeNonce

/-- The client cannot tell an answer to the one from an answer to the other. -/
def Awaited.Mistakes : Awaited → Answer → Prop
  | .reply seq _, { request := .reply other _, .. } => other = seq
  | .welcome hello, { request := .welcome _, line, .. } =>
    ∃ response, decodeCompactResponse json line = .ok response ∧ response.Fits hello
  | _, _ => False

theorem expectOk_of_replies {seq other : UInt32} {line : List Char} (h : Replies other line)
    (hne : other ≠ seq) : expectOk seq line = badResponse line := by
  obtain ⟨verdict, rest, hwords, -⟩ := h
  unfold expectOk
  rw [hwords]
  simp [hne]

theorem expectOk_of_head {seq : UInt32} {line verdict : List Char}
    (h : (Text.asciiWords line).head? = some verdict) (hok : verdict ≠ "OK".toList)
    (herr : verdict ≠ "ERR".toList) : expectOk seq line = badResponse line := by
  unfold expectOk
  split
  · rename_i first number rest hwords
    rw [hwords] at h
    obtain rfl : first = verdict := Option.some.inj h
    rw [if_neg hok, if_neg herr, ite_self]
  · rfl

theorem expectOk_handshake_error (seq : UInt32) :
    expectOk seq "ERR 0 handshake".toList = badResponse "ERR 0 handshake".toList := by
  have hwords : Text.asciiWords "ERR 0 handshake".toList =
      ["ERR".toList, "0".toList, "handshake".toList] := by decide
  unfold expectOk
  rw [hwords]
  simp only
  rw [if_neg (by decide : "ERR".toList ≠ "OK".toList), if_pos trivial,
    if_neg (by decide : ¬ isCompactRejectionReason "handshake".toList = true), ite_self]

theorem expectOk_of_welcomes {seq : UInt32} {line : List Char} (h : Welcomes line) :
    expectOk seq line = badResponse line := by
  obtain hhead | hhead | rfl := h
  · apply expectOk_of_head hhead
    · decide
    · decide
  · apply expectOk_of_head hhead
    · decide
    · decide
  · exact expectOk_handshake_error seq

theorem decode_of_replies {seq : UInt32} {line : List Char} (h : Replies seq line) :
    decodeCompactResponse json line = badResponse "expected WELCOME or REJECT frame".toList := by
  obtain ⟨verdict, rest, hwords, hverdict⟩ := h
  unfold decodeCompactResponse
  rw [hwords]
  obtain rfl | rfl := hverdict <;> rfl

theorem decode_error_inconclusive {line : List Char} {error : CockpitError}
    (h : decodeCompactResponse json line = .error error) :
    (Returned.failed error).conclusive = false := by
  unfold decodeCompactResponse at h
  simp only at h
  split at h
  · cases h
    rfl
  · split at h
    · cases h
      rfl
    · split at h
      · cases hpayload : json.handshakeResponse _ with
        | error message =>
          rw [hpayload] at h
          cases h
          rfl
        | ok response =>
          rw [hpayload] at h
          cases h
      · cases h
        rfl

theorem validate_conclusive {hello : HandshakeHello} {response : HandshakeResponse}
    (h : (Returned.ofOutcome (HandshakeOutcome.validate debugText hello response)).conclusive =
      true) : response.Fits hello := by
  cases response with
  | reject reject => trivial
  | welcome frame =>
    by_contra hne
    have hstale : frame.echoedHandshakeNonce ≠ hello.handshakeNonce := hne
    unfold HandshakeOutcome.validate at h
    simp only at h
    rw [if_pos hstale] at h
    cases h

/-- What is read of an answer to another request says that it is none, unless the client cannot
tell the two apart. -/
theorem interpret_foreign {awaited : Awaited} {answer : Answer}
    (h : ¬ awaited.Mistakes json answer) :
    (awaited.interpret json debugText answer.line).conclusive = false := by
  obtain ⟨turn, asked, line, hanswers⟩ := answer
  cases awaited with
  | reply seq request =>
    have hbad : expectOk seq line = badResponse line := by
      cases asked with
      | reply other request => exact expectOk_of_replies hanswers h
      | welcome hello => exact expectOk_of_welcomes hanswers
    unfold Awaited.interpret
    simp only
    rw [parse_of_expectOk_error json hbad]
    rfl
  | welcome hello =>
    unfold Awaited.interpret
    cases asked with
    | reply other request =>
      simp only
      rw [decode_of_replies json hanswers]
      rfl
    | welcome other =>
      simp only
      cases hdecode : decodeCompactResponse json line with
      | error error =>
        exact decode_error_inconclusive json hdecode
      | ok response =>
        simp only
        by_contra hconclusive
        apply h
        exact ⟨response, hdecode, validate_conclusive debugText (by simpa using hconclusive)⟩

end Foreign

section Pairing

variable (json : Json) (debugText : String → String)

namespace UartExchange

/-- The answer is in the receive buffer before the read gives up. -/
def Timely (exchange : UartExchange) : Prop := exchange.own ∈ exchange.arrived

def TakesOwn (exchange : UartExchange) : Prop :=
  exchange.Timely → exchange.read = some exchange.own

structure Correlated (exchange : UartExchange) : Prop where
  honest : ∀ answer, exchange.read = some answer → answer.turn ≠ exchange.own.turn →
    (exchange.returned json debugText).conclusive = false
  recovers : exchange.Timely → exchange.read = some exchange.own ∧
    exchange.returned json debugText =
      exchange.own.request.interpret json debugText exchange.own.line

/-- The line that is read is the request's own, or the client can tell it apart. -/
def Distinct (exchange : UartExchange) : Prop :=
  ∀ answer, exchange.read = some answer → answer.turn ≠ exchange.own.turn →
    ¬ exchange.own.request.Mistakes json answer

theorem correlated_iff {exchange : UartExchange} (h : exchange.Distinct json) :
    exchange.Correlated json debugText ↔ exchange.TakesOwn := by
  constructor
  · intro hcorrelated htimely
    exact (hcorrelated.recovers htimely).1
  · intro htakes
    constructor
    · intro answer hread hforeign
      unfold returned
      rw [hread]
      exact interpret_foreign json debugText (h answer hread hforeign)
    · intro htimely
      have hread := htakes htimely
      constructor
      · exact hread
      · unfold returned
        rw [hread]

end UartExchange

def AllCorrelated (exchanges : List UartExchange) : Prop :=
  ∀ exchange ∈ exchanges, exchange.Correlated json debugText

def AllDistinct (exchanges : List UartExchange) : Prop :=
  ∀ exchange ∈ exchanges, exchange.Distinct json

/-- After an answer that came late, none comes in time. -/
def Punctual (exchanges : List UartExchange) : Prop :=
  exchanges.Pairwise fun earlier later => later.Timely → earlier.Timely

namespace UartLink

/-- The unread answers are to earlier requests. -/
def Numbered (link : UartLink) : Prop := ∀ answer ∈ link.lines.unread, answer.turn < link.turn

section Request

variable {link : UartLink} {own : Answer} {arrivals : Nat}

theorem own_not_mem (h : link.Numbered) (hown : own.turn = link.turn) :
    own ∉ link.lines.unread := by
  intro hmem
  have hlt := h own hmem
  omega

theorem unread_awaited : (link.awaited own arrivals).unread = link.lines.unread ++ [own] := by
  simp [awaited]

theorem numbered_request (h : link.Numbered) (hown : own.turn = link.turn)
    (cockpit : UartCockpit) :
    (link.request json debugText cockpit own arrivals).1.Numbered := by
  intro answer hmem
  have hunread := Fifo.mem_unread_read hmem
  rw [unread_awaited, List.mem_append] at hunread
  obtain hearlier | hsingle := hunread
  · have hlt := h answer hearlier
    exact Nat.lt_succ_of_lt hlt
  · obtain rfl := List.mem_singleton.mp hsingle
    exact hown ▸ Nat.lt_succ_self _

theorem takesOwn_iff (h : link.Numbered) (hown : own.turn = link.turn) :
    UartExchange.TakesOwn { own := own, arrived := (link.awaited own arrivals).arrived } ↔
      (own ∈ (link.awaited own arrivals).arrived → link.lines.unread = []) := by
  unfold UartExchange.TakesOwn UartExchange.Timely UartExchange.read
  apply imp_congr_right
  intro htimely
  have harrived := Fifo.arrived_of_last_mem unread_awaited (own_not_mem h hown) htimely
  simp only at harrived ⊢
  rw [harrived]
  cases hunread : link.lines.unread with
  | nil => simp
  | cons first rest =>
    have hne : first ≠ own := by
      intro heq
      apply own_not_mem h hown
      rw [hunread, heq]
      exact List.mem_cons_self
    simp [hne]

theorem unread_request_iff (cockpit : UartCockpit) :
    (link.request json debugText cockpit own arrivals).1.lines.unread = [] ↔
      link.lines.unread = [] ∧ own ∈ (link.awaited own arrivals).arrived := by
  have hread : (link.request json debugText cockpit own arrivals).1.lines =
      (link.awaited own arrivals).read := rfl
  rw [hread]
  by_cases hnone : (link.awaited own arrivals).arrived = []
  · rw [Fifo.unread_read_of_none _ hnone, unread_awaited, hnone]
    simp
  · rw [Fifo.unread_read_of_arrived _ hnone, unread_awaited]
    constructor
    · intro htail
      have hclear : link.lines.unread = [] := by
        have hlength := congrArg List.length htail
        simpa using hlength
      constructor
      · exact hclear
      · apply Fifo.mem_arrived_of_single _ hnone
        rw [unread_awaited, hclear]
        rfl
    · intro hclear
      rw [hclear.1]
      rfl

end Request

section Run

theorem step_cases (link : UartLink) (turn : Turn) :
    (∃ arrivals, link.step json debugText turn =
      ({ link with lines := link.lines.deliver arrivals }, [])) ∨
    ∃ cockpit own arrivals, own.turn = link.turn ∧
      link.step json debugText turn = link.request json debugText cockpit own arrivals := by
  cases turn with
  | execute session request answer arrivals =>
    unfold step
    simp only
    split
    · right
      exact ⟨_, _, _, rfl, rfl⟩
    · left
      exact ⟨_, rfl⟩
  | handshake hello answer arrivals =>
    right
    exact ⟨_, _, _, rfl, rfl⟩

theorem run_cons (link : UartLink) (turn : Turn) (turns : List Turn) :
    link.run json debugText (turn :: turns) = (link.step json debugText turn).2 ++
      (link.step json debugText turn).1.run json debugText turns := rfl

theorem run_takesOwn_iff {link : UartLink} (h : link.Numbered) (turns : List Turn) :
    (∀ exchange ∈ link.run json debugText turns, exchange.TakesOwn) ↔
      Punctual (link.run json debugText turns) ∧
        (link.lines.unread ≠ [] → ∀ exchange ∈ link.run json debugText turns,
          ¬ exchange.Timely) := by
  induction turns generalizing link with
  | nil => simp [run, Punctual]
  | cons turn turns ih =>
    rw [run_cons]
    obtain ⟨arrivals, hstep⟩ | ⟨cockpit, own, arrivals, hown, hstep⟩ :=
      step_cases json debugText link turn
    · rw [hstep]
      have hnumbered : ({ link with lines := link.lines.deliver arrivals } : UartLink).Numbered := by
        intro answer hmem
        apply h
        simpa using hmem
      have hrun := ih hnumbered
      simpa using hrun
    · rw [hstep]
      have hrun := ih (@numbered_request json debugText link own arrivals h hown cockpit)
      have htakes := @takesOwn_iff link own arrivals h hown
      have hunread := @unread_request_iff json debugText link own arrivals cockpit
      have hexchanges : (link.request json debugText cockpit own arrivals).2 =
          [{ own := own, arrived := (link.awaited own arrivals).arrived }] := rfl
      rw [hexchanges]
      generalize (link.request json debugText cockpit own arrivals).1 = next at hrun hunread ⊢
      generalize hlater : next.run json debugText turns = later at hrun ⊢
      unfold Punctual at hrun ⊢
      simp only [List.singleton_append, List.forall_mem_cons, List.pairwise_cons]
      rw [hrun, htakes]
      have hlate (hnot : own ∉ (link.awaited own arrivals).arrived) : next.lines.unread ≠ [] :=
        fun hclear => hnot (hunread.mp hclear).2
      have hbehind (hnot : link.lines.unread ≠ []) : next.lines.unread ≠ [] :=
        fun hclear => hnot (hunread.mp hclear).1
      constructor
      · rintro ⟨hfirst, hpairs, hrest⟩
        refine ⟨⟨?_, hpairs⟩, ?_⟩
        · intro exchange hmem htimely
          by_contra hnot
          exact hrest (hlate hnot) exchange hmem htimely
        · intro hne
          exact ⟨fun htimely => hne (hfirst htimely), hrest (hbehind hne)⟩
      · rintro ⟨⟨hpair, hpairs⟩, hrest⟩
        refine ⟨?_, hpairs, ?_⟩
        · intro htimely
          by_contra hne
          exact (hrest hne).1 htimely
        · intro hne exchange hmem htimely
          by_cases hclear : link.lines.unread = []
          · exact hne (hunread.mpr ⟨hclear, hpair exchange hmem htimely⟩)
          · exact (hrest hclear).2 exchange hmem htimely

theorem numbered_start : ({} : UartLink).Numbered := by
  intro answer hmem
  cases hmem

end Run

end UartLink

/-- Every answer that comes in time is returned, and no other is, exactly when no answer comes in
time after one that did not: a late answer is never skipped. -/
theorem run_correlated_iff_punctual (turns : List Turn)
    (h : AllDistinct json (({} : UartLink).run json debugText turns)) :
    AllCorrelated json debugText (({} : UartLink).run json debugText turns) ↔
      Punctual (({} : UartLink).run json debugText turns) := by
  have htakes := UartLink.run_takesOwn_iff json debugText UartLink.numbered_start turns
  have hclear : ({} : UartLink).lines.unread = [] := rfl
  simp only [hclear, ne_eq, not_true_eq_false, false_implies, and_true] at htakes
  rw [← htakes]
  apply forall₂_congr
  intro exchange hmem
  exact UartExchange.correlated_iff json debugText (h exchange hmem)

end Pairing

section Late

def silentJson : Json where
  handshakeResponse := fun _ => .error ""
  unknownVariant := fun _ => ""

def okAnswer (turn : Nat) (seq : UInt32) (request : CockpitRequest) : Answer where
  turn := turn
  request := .reply seq request
  line := (okReply seq).val
  answers := (okReply seq).property

/-- The answer to a stop comes late, and then so many lines arrive for a ping. -/
def lateTurns (arrivals : Nat) : List Turn :=
  [.execute none .stop okReply 0, .execute none .ping okReply arrivals]

theorem run_lateTurns (arrivals : Nat) :
    ({} : UartLink).run silentJson id (lateTurns arrivals) =
      [{ own := okAnswer 0 1 .stop, arrived := [] },
        { own := okAnswer 1 2 .ping
          arrived := [okAnswer 0 1 .stop, okAnswer 1 2 .ping].take arrivals }] := rfl

theorem run_correlated_late :
    AllCorrelated silentJson id (({} : UartLink).run silentJson id (lateTurns 1)) := by
  apply (run_correlated_iff_punctual silentJson id (lateTurns 1) ?_).mpr
  · rw [run_lateTurns]
    have hne : okAnswer 1 2 .ping ≠ okAnswer 0 1 .stop := fun h =>
      absurd (congrArg Answer.turn h) (by decide)
    simp [Punctual, UartExchange.Timely, hne]
  · rw [run_lateTurns]
    intro exchange hmem answer hread hforeign
    simp only [List.mem_cons, List.not_mem_nil, or_false] at hmem
    obtain rfl | rfl := hmem
    · cases hread
    · cases hread
      intro hmistakes
      exact absurd hmistakes (by decide : (1 : UInt32) ≠ 2)

/-- The second request reads the answer to the first, though its own has arrived. -/
theorem late_answer_shifts :
    ¬ AllCorrelated silentJson id (({} : UartLink).run silentJson id (lateTurns 2)) := by
  rw [run_lateTurns]
  intro h
  have hping := h _ (List.mem_cons_of_mem _ List.mem_cons_self)
  have hread := (hping.recovers (by simp [UartExchange.Timely])).1
  have hsame : okAnswer 0 1 .stop = okAnswer 1 2 .ping := Option.some.inj hread
  exact absurd (congrArg Answer.turn hsame) (by decide)

end Late

end Netherwick.Cockpit
