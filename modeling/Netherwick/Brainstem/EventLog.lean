import Mathlib.Logic.Function.Basic
import Mathlib.Data.List.DropRight
import Mathlib.Data.UInt

/-! # The public event log

Events are numbered from one and kept in a ring. A reader names the last number it has and gets a
page of what follows. -/

namespace Netherwick.Lib

def saturatingAdd (a b : UInt32) : UInt32 := if a + b < a then 0xFFFFFFFF else a + b

def saturatingSub (a b : UInt32) : UInt32 := if a < b then 0 else a - b

theorem saturatingAdd_toNat (a b : UInt32) :
    (saturatingAdd a b).toNat = min (a.toNat + b.toNat) 4294967295 := by
  have ha := a.toNat_lt
  have hb := b.toNat_lt
  unfold saturatingAdd
  split
  · rename_i h
    rw [UInt32.lt_iff_toNat_lt, UInt32.toNat_add] at h
    have hmax : (0xFFFFFFFF : UInt32).toNat = 4294967295 := rfl
    rw [hmax]
    omega
  · rename_i h
    rw [UInt32.lt_iff_toNat_lt, UInt32.toNat_add] at h
    rw [UInt32.toNat_add]
    omega

theorem saturatingSub_toNat (a b : UInt32) : (saturatingSub a b).toNat = a.toNat - b.toNat := by
  have ha := a.toNat_lt
  have hb := b.toNat_lt
  unfold saturatingSub
  split
  · rename_i h
    rw [UInt32.lt_iff_toNat_lt] at h
    have hzero : (0 : UInt32).toNat = 0 := rfl
    omega
  · rename_i h
    rw [UInt32.lt_iff_toNat_lt] at h
    rw [UInt32.toNat_sub]
    omega

theorem toNat_max (a b : UInt32) : (max a b).toNat = max a.toNat b.toNat := by
  change (if a ≤ b then b else a).toNat = _
  split
  · rename_i h
    rw [UInt32.le_iff_toNat_le] at h
    omega
  · rename_i h
    rw [UInt32.le_iff_toNat_le] at h
    omega

end Netherwick.Lib

namespace Netherwick.Brainstem

open Netherwick.Lib

section Log

structure EventRecord where
  kind : UInt8
  a : UInt32
  b : UInt32
  c : UInt32
  deriving DecidableEq, Repr

structure PublicEventRecord extends EventRecord where
  seq : UInt32
  deriving DecidableEq, Repr

def eventLogCapacity : Nat := 128

def eventResponseCapacity : Nat := 16

structure EventLog where
  nextSeq : UInt32 := 1
  slots : Nat → PublicEventRecord := fun _ => { kind := 0, a := 0, b := 0, c := 0, seq := 0 }

def eventIndex (seq : UInt32) : Nat := seq.toNat % eventLogCapacity

namespace EventLog

/-- `record_public_event`. -/
def record (log : EventLog) (event : EventRecord) : EventLog where
  nextSeq := max (log.nextSeq + 1) 1
  slots := Function.update log.slots (eventIndex log.nextSeq) { event with seq := log.nextSeq }

def oldestSeq (log : EventLog) : UInt32 :=
  max (saturatingSub log.nextSeq eventLogCapacity.toUInt32) 1

def droppedBeforeSeq (log : EventLog) (sinceSeq : UInt32) : UInt32 :=
  if saturatingAdd sinceSeq 1 < log.oldestSeq then log.oldestSeq else 0

/-- The record of a number, if the ring still holds it. -/
def lookup (log : EventLog) (seq : UInt32) : Option PublicEventRecord :=
  let record := log.slots (eventIndex seq)
  if record.seq ≠ seq then none else some record

def collectEventsSince (log : EventLog) (sinceSeq : UInt32) : List PublicEventRecord :=
  let sinceSeq := max sinceSeq (saturatingSub log.oldestSeq 1)
  let start := (saturatingAdd sinceSeq 1).toNat
  let numbers := (List.range' start (log.nextSeq.toNat - start)).map UInt32.ofNat
  (numbers.filterMap log.lookup).take eventResponseCapacity

def batchNextSeq (log : EventLog) (records : List PublicEventRecord) : UInt32 :=
  match records.getLast? with
  | some record => saturatingAdd record.seq 1
  | none => log.nextSeq

end EventLog

end Log

section History

/-- The event after `n` others. -/
def numbered (n : Nat) (event : EventRecord) : PublicEventRecord :=
  { event with seq := UInt32.ofNat (n + 1) }

def numberedEvents (history : List EventRecord) : List PublicEventRecord :=
  history.mapIdx numbered

namespace EventLog

/-- The log of a history: the numbers have not come round, and the ring holds the last events. -/
structure Keeps (log : EventLog) (history : List EventRecord) : Prop where
  next : log.nextSeq.toNat = history.length + 1
  slot : ∀ n event, history[n]? = some event → history.length ≤ n + eventLogCapacity →
    log.slots ((n + 1) % eventLogCapacity) = numbered n event

theorem keeps_start : ({} : EventLog).Keeps [] where
  next := rfl
  slot := by
    intro n event h
    simp at h

theorem nextSeq_eq {log : EventLog} {history : List EventRecord} (h : log.Keeps history) :
    log.nextSeq = UInt32.ofNat (history.length + 1) := by
  rw [← h.next]
  exact (UInt32.ofNat_toNat).symm

theorem keeps_record {log : EventLog} {history : List EventRecord} (h : log.Keeps history)
    (event : EventRecord) (hroom : log.nextSeq ≠ 0xFFFFFFFF) :
    (log.record event).Keeps (history ++ [event]) := by
  have hnext := h.next
  have hlast : log.nextSeq.toNat ≠ 4294967295 := by
    intro heq
    apply hroom
    apply UInt32.toNat_inj.mp
    exact heq
  have hlt := log.nextSeq.toNat_lt
  constructor
  · have hone : (1 : UInt32).toNat = 1 := rfl
    unfold record
    rw [toNat_max, UInt32.toNat_add, List.length_append, hnext, hone, List.length_singleton]
    omega
  · intro n found hfound hrecent
    unfold record
    simp only
    rw [List.length_append, List.length_singleton] at hrecent
    unfold eventIndex
    rw [hnext]
    unfold eventLogCapacity at hrecent ⊢
    by_cases hn : n = history.length
    · subst hn
      rw [List.getElem?_concat_length] at hfound
      cases hfound
      rw [Function.update_self, nextSeq_eq h]
      rfl
    · have hbound : n < (history ++ [event]).length := by
        exact (List.getElem?_eq_some_iff.mp hfound).1
      rw [List.length_append, List.length_singleton] at hbound
      have hne : (n + 1) % 128 ≠ (history.length + 1) % 128 := by omega
      rw [Function.update_of_ne hne]
      apply h.slot n found
      · rwa [List.getElem?_append_left (by omega)] at hfound
      · unfold eventLogCapacity
        omega

theorem keeps_foldl {log : EventLog} {history : List EventRecord} (h : log.Keeps history)
    (events : List EventRecord) (hroom : history.length + events.length < 4294967295) :
    (events.foldl record log).Keeps (history ++ events) := by
  induction events generalizing log history with
  | nil => simpa using h
  | cons event events ih =>
    rw [List.length_cons] at hroom
    have hlast : log.nextSeq ≠ 0xFFFFFFFF := by
      intro hmax
      have hnext := h.next
      have hvalue : (0xFFFFFFFF : UInt32).toNat = 4294967295 := rfl
      rw [hmax, hvalue] at hnext
      omega
    have hrest := ih (keeps_record h event hlast) (by simp; omega)
    simpa using hrest

theorem nextSeq_record_last {log : EventLog} (event : EventRecord)
    (hlast : log.nextSeq = 0xFFFFFFFF) : (log.record event).nextSeq = 1 := by
  unfold record
  rw [hlast]
  rfl

theorem oldestSeq_toNat {log : EventLog} {history : List EventRecord} (h : log.Keeps history) :
    log.oldestSeq.toNat = max (history.length + 1 - 128) 1 := by
  have hcapacity : eventLogCapacity.toUInt32.toNat = 128 := rfl
  have hone : (1 : UInt32).toNat = 1 := rfl
  unfold oldestSeq
  rw [toNat_max, saturatingSub_toNat, h.next, hcapacity, hone]

theorem lookup_eq {log : EventLog} {history : List EventRecord} (h : log.Keeps history) {n : Nat}
    {event : EventRecord} (hfound : history[n]? = some event)
    (hrecent : history.length ≤ n + eventLogCapacity) :
    log.lookup (UInt32.ofNat (n + 1)) = some (numbered n event) := by
  have hlt := log.nextSeq.toNat_lt
  have hn : n < history.length := (List.getElem?_eq_some_iff.mp hfound).1
  have hnext := h.next
  have hindex : eventIndex (UInt32.ofNat (n + 1)) = (n + 1) % eventLogCapacity := by
    have hseq : (UInt32.ofNat (n + 1)).toNat = n + 1 := by
      rw [UInt32.toNat_ofNat']
      omega
    unfold eventIndex
    rw [hseq]
  unfold lookup
  rw [hindex, h.slot n event hfound hrecent]
  exact if_neg (fun hne => hne rfl)

theorem lookup_eq_none {log : EventLog} {history : List EventRecord} (h : log.Keeps history)
    {n : Nat} (hlost : n + eventLogCapacity < history.length) :
    log.lookup (UInt32.ofNat (n + 1)) = none := by
  have hlt := log.nextSeq.toNat_lt
  have hnext := h.next
  unfold eventLogCapacity at hlost
  obtain ⟨later, hlater, hbound, hrecent, hindex⟩ : ∃ later, n < later ∧ later < history.length ∧
      history.length ≤ later + 128 ∧ (later + 1) % 128 = (n + 1) % 128 :=
    ⟨history.length - 1 - (history.length - 1 - n) % 128, by omega, by omega, by omega, by omega⟩
  have hslot := h.slot later history[later] (List.getElem?_eq_getElem hbound) hrecent
  have hseq (m : Nat) (hm : m < history.length) : (UInt32.ofNat (m + 1)).toNat = m + 1 := by
    rw [UInt32.toNat_ofNat']
    omega
  have hne : UInt32.ofNat (later + 1) ≠ UInt32.ofNat (n + 1) := by
    intro heq
    have htoNat := congrArg UInt32.toNat heq
    rw [hseq later hbound, hseq n (by omega)] at htoNat
    omega
  unfold eventLogCapacity at hslot
  rw [hindex] at hslot
  unfold lookup eventIndex eventLogCapacity
  rw [hseq n (by omega), hslot]
  exact if_pos hne

theorem filterMap_lookup {log : EventLog} {history : List EventRecord} (h : log.Keeps history)
    (count n : Nat) (hcount : n + count = history.length)
    (hrecent : history.length ≤ n + eventLogCapacity) :
    ((List.range' (n + 1) count).map UInt32.ofNat).filterMap log.lookup =
      (numberedEvents history).drop n := by
  induction count generalizing n with
  | zero =>
    have hdrop : (numberedEvents history).drop n = [] := by
      apply List.drop_eq_nil_of_le
      simp [numberedEvents]
      omega
    rw [hdrop]
    rfl
  | succ count ih =>
    have hn : n < history.length := by omega
    have hfound : history[n]? = some history[n] := List.getElem?_eq_getElem hn
    have hlength : n < (numberedEvents history).length := by
      simpa [numberedEvents] using hn
    rw [List.range'_succ, List.map_cons,
      List.filterMap_cons_some (lookup_eq h hfound hrecent), ih (n + 1) (by omega) (by omega),
      List.drop_eq_getElem_cons hlength]
    simp [numberedEvents]

theorem droppedBeforeSeq_ne_zero_iff {log : EventLog} {history : List EventRecord}
    (h : log.Keeps history) (sinceSeq : UInt32) :
    log.droppedBeforeSeq sinceSeq ≠ 0 ↔
      sinceSeq.toNat + eventLogCapacity < history.length := by
  have holdest := oldestSeq_toNat h
  have hlt := log.nextSeq.toNat_lt
  have hnext := h.next
  have hone : (1 : UInt32).toNat = 1 := rfl
  have hzero : (0 : UInt32).toNat = 0 := rfl
  have hpositive : log.oldestSeq ≠ 0 := by
    intro heq
    rw [heq, hzero] at holdest
    omega
  unfold droppedBeforeSeq eventLogCapacity
  split
  · rename_i hdropped
    rw [UInt32.lt_iff_toNat_lt, saturatingAdd_toNat, holdest, hone] at hdropped
    simp only [ne_eq, hpositive, not_false_eq_true, true_iff]
    omega
  · rename_i hkept
    rw [UInt32.lt_iff_toNat_lt, saturatingAdd_toNat, holdest, hone] at hkept
    simp only [ne_eq, not_true_eq_false, false_iff]
    omega

theorem collectEventsSince_eq {log : EventLog} {history : List EventRecord} (h : log.Keeps history)
    {sinceSeq : UInt32} (hsince : sinceSeq.toNat ≤ history.length)
    (hkept : history.length ≤ sinceSeq.toNat + eventLogCapacity) :
    log.collectEventsSince sinceSeq =
      ((numberedEvents history).drop sinceSeq.toNat).take eventResponseCapacity := by
  have holdest := oldestSeq_toNat h
  have hnext := h.next
  have hlt := log.nextSeq.toNat_lt
  have hone : (1 : UInt32).toNat = 1 := rfl
  have hmax : (max sinceSeq (saturatingSub log.oldestSeq 1)).toNat = sinceSeq.toNat := by
    unfold eventLogCapacity at hkept
    rw [toNat_max, saturatingSub_toNat, holdest, hone]
    omega
  have hstart : (saturatingAdd (max sinceSeq (saturatingSub log.oldestSeq 1)) 1).toNat =
      sinceSeq.toNat + 1 := by
    rw [saturatingAdd_toNat, hmax, hone]
    omega
  unfold collectEventsSince
  simp only [hstart]
  rw [filterMap_lookup h _ sinceSeq.toNat (by omega) hkept]

theorem batchNextSeq_toNat {log : EventLog} {history : List EventRecord} (h : log.Keeps history)
    {sinceSeq : UInt32} (hsince : sinceSeq.toNat ≤ history.length)
    (hkept : history.length ≤ sinceSeq.toNat + eventLogCapacity) :
    (log.batchNextSeq (log.collectEventsSince sinceSeq)).toNat =
      sinceSeq.toNat + (log.collectEventsSince sinceSeq).length + 1 := by
  rw [collectEventsSince_eq h hsince hkept]
  generalize hpage :
    ((numberedEvents history).drop sinceSeq.toNat).take eventResponseCapacity = page
  have hlength : page.length = min 16 (history.length - sinceSeq.toNat) := by
    rw [← hpage, List.length_take, List.length_drop]
    simp [numberedEvents, eventResponseCapacity]
  have hlt := log.nextSeq.toNat_lt
  have hnext := h.next
  have hone : (1 : UInt32).toNat = 1 := rfl
  unfold batchNextSeq
  rw [List.getLast?_eq_getElem?]
  split
  · rename_i record hlast
    have hpos : page.length - 1 < page.length := (List.getElem?_eq_some_iff.mp hlast).1
    rw [← hpage, List.getElem?_take_of_lt, List.getElem?_drop] at hlast
    · rw [hpage] at hlast
      unfold numberedEvents at hlast
      rw [List.getElem?_mapIdx, List.getElem?_eq_getElem (by omega)] at hlast
      obtain rfl := Option.some.inj hlast
      unfold numbered
      rw [saturatingAdd_toNat, UInt32.toNat_ofNat', Nat.mod_eq_of_lt (by omega), hone]
      omega
    · rw [hpage]
      unfold eventResponseCapacity
      omega
  · rename_i hlast
    have hempty := List.getElem?_eq_none_iff.mp hlast
    omega

end EventLog

end History

end Netherwick.Brainstem
