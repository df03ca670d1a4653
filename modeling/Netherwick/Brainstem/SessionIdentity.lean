import Netherwick.Brainstem.Session
import Mathlib.Data.List.Nodup
import Mathlib.Data.List.Range

/-! # Which hello a session belongs to

A hello gets the cached session back when it hashes like the hello that opened it. The hash joins
its fields without separators, and the counter of the generations wraps. -/

namespace Netherwick.Brainstem.Session

open Netherwick.Lib

variable (device boot : Text)

structure Opened where
  creator : Hello
  session : AcceptedHello

/-- The same session, whatever minor version was negotiated. -/
def AcceptedHello.sameSession (a b : AcceptedHello) : Prop :=
  a.generation = b.generation ∧ a.sessionHash = b.sessionHash ∧ a.sessionId = b.sessionId

def opens (hello : Hello) (store : Store) : Option Opened :=
  match validate device boot hello store with
  | (.ok session, store') =>
    if store'.generation = store.generation then none else some ⟨hello, session⟩
  | (.error _, _) => none

/-- An accepted hello gets the cached session exactly if it carries the identity of its creator. -/
def Recognised (opened : Option Opened) (hello : Hello) (store : Store) : Prop :=
  ∀ o ∈ opened, ∀ accepted ∈ (validate device boot hello store).1.toOption,
    (accepted.sameSession o.session ↔ hello.identity = o.creator.identity)

def AllRecognised : Option Opened → Store → List Hello → Prop
  | _, _, [] => True
  | opened, store, hello :: rest =>
    Recognised device boot opened hello store ∧
      AllRecognised ((opens device boot hello store).or opened)
        (validate device boot hello store).2 rest

instance (a b : AcceptedHello) : Decidable (a.sameSession b) := inferInstanceAs (Decidable (_ ∧ _))

instance (opened : Option Opened) (hello : Hello) (store : Store) :
    Decidable (Recognised device boot opened hello store) :=
  inferInstanceAs (Decidable (∀ o ∈ opened, ∀ _ ∈ _, _))

instance decidableAllRecognised : ∀ (opened : Option Opened) (store : Store) (hellos : List Hello),
    Decidable (AllRecognised device boot opened store hellos)
  | _, _, [] => .isTrue trivial
  | opened, store, hello :: rest =>
    have := decidableAllRecognised ((opens device boot hello store).or opened)
      (validate device boot hello store).2 rest
    inferInstanceAs (Decidable (Recognised device boot opened hello store ∧ _))

def openedSessions : Store → List Hello → List AcceptedHello
  | _, [] => []
  | store, hello :: rest =>
    ((opens device boot hello store).map Opened.session).toList ++
      openedSessions (validate device boot hello store).2 rest

section Condition

/-- The hello that opened the last session, and its generation. -/
abbrev Creator : Type := Hello × UInt32

/-- Does this hello pass the checks and hash otherwise than the last creator? -/
def opensAfter (creator : Option Creator) (hello : Hello) : Bool :=
  (checkHello hello).toBool && !creator.any fun c =>
    helloHash device boot hello = helloHash device boot c.1

/-- The creator after one more hello, when `count` sessions were opened before. -/
def nextCreator (creator : Option Creator) (count : Nat) (hello : Hello) : Option Creator :=
  if opensAfter device boot creator hello then
    some (hello, nextGeneration (UInt32.ofNat count))
  else creator

def sessionCount : Option Creator → Nat → List Hello → Nat
  | _, count, [] => count
  | creator, count, hello :: rest =>
    sessionCount (nextCreator device boot creator count hello)
      (if opensAfter device boot creator hello then count + 1 else count) rest

/-- An accepted hello that hashes like the last creator carries its identity, unless that session's
hash came out as zero: then it does not. -/
def Unmistaken (creator : Option Creator) (hello : Hello) : Prop :=
  ∀ c ∈ creator, (checkHello hello).toBool = true →
    helloHash device boot hello = helloHash device boot c.1 →
      (hello.identity = c.1.identity ↔
        newSessionHash device boot c.1 c.2 ≠ 0)

/-- No hello of a sequence is mistaken for the last creator. -/
def Unaliased : Option Creator → Nat → List Hello → Prop
  | _, _, [] => True
  | creator, count, hello :: rest =>
    Unmistaken device boot creator hello ∧
      Unaliased (nextCreator device boot creator count hello)
        (if opensAfter device boot creator hello then count + 1 else count) rest

end Condition

section Simulation

variable {device boot} {opened : Option Opened} {creator : Option Creator}
  {count : Nat} {hello : Hello} {store : Store}

def newSession (device boot : Text) (hello : Hello) (generation : UInt32)
    (negotiatedMinor : UInt16) : AcceptedHello :=
  let hash := newSessionHash device boot hello generation
  ⟨generation, max hash 1, sessionToken hash generation, negotiatedMinor⟩

/-- The store remembers the last creator, after `count` sessions. -/
structure Remembers (device boot : Text) (store : Store) (count : Nat)
    (c : Creator) (opened : Opened) : Prop where
  positive : 0 < count
  creator : opened.creator = c.1
  generation : c.2 = max (UInt32.ofNat count) 1
  session : ∃ negotiatedMinor,
    opened.session = newSession device boot c.1 c.2 negotiatedMinor
  helloHash : store.lastHelloHash = helloHash device boot c.1
  sessionHash : store.lastSessionHash = max (newSessionHash device boot c.1 c.2) 1
  lastGeneration : store.lastGeneration = c.2

/-- The store, the session last opened and its creator belong together. -/
structure Agrees (device boot : Text) (opened : Option Opened)
    (creator : Option Creator) (count : Nat) (store : Store) : Prop where
  counter : store.generation = UInt32.ofNat count
  last : match creator, opened with
    | none, none => count = 0 ∧ store.lastGeneration = 0
    | some c, some o => Remembers device boot store count c o
    | _, _ => False

theorem agrees_start : Agrees device boot none none 0 {} := ⟨rfl, rfl, rfl⟩

theorem nextGeneration_ofNat (count : Nat) :
    nextGeneration (UInt32.ofNat count) = max (UInt32.ofNat (count + 1)) 1 := by
  rw [nextGeneration, UInt32.ofNat_add]
  rfl

theorem sessionToken_zero_ne (generation : UInt32) :
    sessionToken 1 generation ≠ sessionToken 0 generation := by
  intro h
  have hhash : hex8 1 = hex8 0 := by
    simpa only [sessionToken, List.append_cancel_left_eq, List.append_cancel_right_eq] using h
  exact absurd hhash (by decide)

theorem cached_sameSession_iff {o : Opened} {c : Creator} (negotiatedMinor : UInt16)
    (h : Remembers device boot store count c o) :
    AcceptedHello.sameSession ⟨store.lastGeneration, store.lastSessionHash,
        sessionToken store.lastSessionHash store.lastGeneration, negotiatedMinor⟩ o.session ↔
      newSessionHash device boot c.1 c.2 ≠ 0 := by
  obtain ⟨minor, hsession⟩ := h.session
  rw [hsession, h.sessionHash, h.lastGeneration]
  simp only [AcceptedHello.sameSession, newSession, true_and]
  constructor
  · intro htoken hzero
    rw [hzero] at htoken
    exact sessionToken_zero_ne c.2 htoken
  · intro hne
    rw [max_one_eq_self hne]

theorem validate_refused {reason : RejectReason} (h : checkHello hello = .error reason) :
    validate device boot hello store = (.error reason, store) := by
  simp only [validate, h]

theorem validate_cached {negotiatedMinor : UInt16} (h : checkHello hello = .ok negotiatedMinor)
    (hhash : store.lastHelloHash = helloHash device boot hello)
    (hgeneration : store.lastGeneration ≠ 0) :
    validate device boot hello store =
      (.ok ⟨store.lastGeneration, store.lastSessionHash,
        sessionToken store.lastSessionHash store.lastGeneration, negotiatedMinor⟩, store) := by
  simp only [validate, h, if_pos (And.intro hhash hgeneration)]

theorem validate_opened {negotiatedMinor : UInt16} (h : checkHello hello = .ok negotiatedMinor)
    (hnew : ¬ (store.lastHelloHash = helloHash device boot hello ∧
      store.lastGeneration ≠ 0)) :
    let generation := nextGeneration store.generation
    validate device boot hello store =
      (.ok (newSession device boot hello generation negotiatedMinor),
        { generation := store.generation + 1
          lastHelloHash := helloHash device boot hello
          lastSessionHash := max (newSessionHash device boot hello generation) 1
          lastGeneration := generation }) := by
  simp only [validate, h, if_neg hnew, newSession]

/-- A call that opens nothing: the checks fail, or the hello hashes like the last creator. -/
structure Reuses (device boot : Text) (opened : Option Opened)
    (creator : Option Creator) (hello : Hello) (store : Store) : Prop where
  opensAfter : opensAfter device boot creator hello = false
  opens : opens device boot hello store = none
  unchanged : (validate device boot hello store).2 = store
  recognised : Recognised device boot opened hello store ↔
    Unmistaken device boot creator hello

/-- A call that opens a session, which is recognised unless the generations have wrapped. -/
structure Opens (device boot : Text) (opened : Option Opened)
    (creator : Option Creator) (count : Nat) (hello : Hello) (store : Store) (session : AcceptedHello) :
    Prop where
  opensAfter : opensAfter device boot creator hello = true
  opens : opens device boot hello store = some ⟨hello, session⟩
  generation : session.generation = nextGeneration (UInt32.ofNat count)
  agrees : Agrees device boot (some ⟨hello, session⟩)
    (some (hello, nextGeneration (UInt32.ofNat count))) (count + 1)
    (validate device boot hello store).2
  recognised : count + 1 < 2 ^ 32 → Recognised device boot opened hello store
  unmistaken : Unmistaken device boot creator hello

theorem helloHash_congr {a b : Hello} (h : a.identity = b.identity) :
    helloHash device boot a = helloHash device boot b := by
  rw [helloHash, helloHash, h]

theorem ofNat_ne_zero {n : Nat} (hpositive : 0 < n) (hn : n < 2 ^ 32) : UInt32.ofNat n ≠ 0 := by
  intro h
  have htoNat := congrArg UInt32.toNat h
  rw [UInt32.toNat_ofNat_of_lt' hn] at htoNat
  exact absurd htoNat (by simpa using hpositive.ne')

theorem generations_ne {count : Nat} (hpositive : 0 < count) (hcount : count + 1 < 2 ^ 32) :
    max (UInt32.ofNat (count + 1)) 1 ≠ max (UInt32.ofNat count) 1 := by
  rw [max_one_eq_self (ofNat_ne_zero (by omega) hcount),
    max_one_eq_self (ofNat_ne_zero hpositive (by omega))]
  intro h
  have htoNat := congrArg UInt32.toNat h
  have hlt : count < 2 ^ 32 := by omega
  rw [UInt32.toNat_ofNat_of_lt' hcount, UInt32.toNat_ofNat_of_lt' hlt] at htoNat
  omega

theorem Agrees.call (h : Agrees device boot opened creator count store)
    (hello : Hello) :
    Reuses device boot opened creator hello store ∨
      ∃ session, Opens device boot opened creator count hello store session := by
  have hopens : ∀ {result : Except RejectReason AcceptedHello} {store' : Store},
      validate device boot hello store = (result, store') → opens device boot hello store =
        match result with
          | .ok session => if store'.generation = store.generation then none else some ⟨hello, session⟩
          | .error _ => none := by
    intro result store' hcall
    rw [opens, hcall]
    cases result <;> rfl
  cases hcheck : checkHello hello with
  | error reason =>
    have hcall : validate device boot hello store = (.error reason, store) :=
      validate_refused hcheck
    refine .inl ⟨?_, hopens hcall, by rw [hcall], ?_⟩
    · simp [opensAfter, hcheck, Except.toBool]
    · simp [Recognised, Unmistaken, hcall, hcheck, Except.toOption, Except.toBool]
  | ok negotiatedMinor =>
    by_cases hcached : store.lastHelloHash = helloHash device boot hello ∧
        store.lastGeneration ≠ 0
    · have hcall := validate_cached hcheck hcached.1 hcached.2
      match creator, opened, h.last with
      | none, none, ⟨_, hzero⟩ => exact absurd hzero hcached.2
      | some c, some o, hlast =>
        have hhash : helloHash device boot hello = helloHash device boot c.1 :=
          hcached.1.symm.trans hlast.helloHash
        refine .inl ⟨?_, ?_, by rw [hcall], ?_⟩
        · simp [opensAfter, hhash]
        · rw [hopens hcall]
          exact if_pos rfl
        · have hsame := cached_sameSession_iff negotiatedMinor hlast
          simp [Recognised, Unmistaken, hcall, hcheck, Except.toOption, Except.toBool, hhash,
            hsame, hlast.creator]
          exact iff_comm
    · have hcall := validate_opened hcheck hcached
      rw [h.counter] at hcall
      have hne : ∀ c ∈ creator, helloHash device boot hello ≠ helloHash device boot c.1 := by
        rintro c hc hhash
        match creator, opened, h.last with
        | some c', some o, hlast =>
          cases hc
          refine hcached ⟨hlast.helloHash.trans hhash.symm, ?_⟩
          rw [hlast.lastGeneration, hlast.generation]
          exact max_one_ne_zero _
      refine .inr ⟨newSession device boot hello (nextGeneration (UInt32.ofNat count))
        negotiatedMinor, ?_, ?_, rfl, ?_, fun hcount o ho => ?_, fun c hc _ hhash => ?_⟩
      · cases creator with
        | none => simp [opensAfter, hcheck, Except.toBool]
        | some c => simp [opensAfter, hcheck, Except.toBool, hne c rfl]
      · rw [hopens hcall]
        exact if_neg (by simp [h.counter])
      · refine ⟨?_, Nat.succ_pos _, rfl, nextGeneration_ofNat count, ⟨negotiatedMinor, rfl⟩, ?_, ?_, ?_⟩
        all_goals rw [hcall]
        exact (UInt32.ofNat_add _ _).symm
      · match creator, opened, h.last, ho with
        | some c, some o', hlast, ho =>
          cases ho
          obtain ⟨minor, hsession⟩ := hlast.session
          have hgeneration := generations_ne hlast.positive hcount
          rw [← nextGeneration_ofNat, ← hlast.generation] at hgeneration
          have hidentity : hello.identity ≠ o.creator.identity := by
            rw [hlast.creator]
            exact fun hsame => hne c rfl (helloHash_congr hsame)
          simp [hcall, Except.toOption, AcceptedHello.sameSession, newSession, hsession,
            hgeneration, hidentity]
      · exact absurd hhash (hne c hc)

end Simulation

section Sequences

variable {device boot} {opened : Option Opened} {creator : Option Creator} {count : Nat}
  {store : Store}

theorem count_le_sessionCount (hellos : List Hello) :
    count ≤ sessionCount device boot creator count hellos := by
  induction hellos generalizing creator count with
  | nil => exact Nat.le_refl _
  | cons hello rest ih =>
    refine Nat.le_trans ?_ ih
    split
    · exact Nat.le_succ _
    · exact Nat.le_refl _

theorem allRecognised_iff (h : Agrees device boot opened creator count store) {hellos : List Hello}
    (hcount : sessionCount device boot creator count hellos < 2 ^ 32) :
    AllRecognised device boot opened store hellos ↔ Unaliased device boot creator count hellos := by
  induction hellos generalizing opened creator count store with
  | nil => exact Iff.rfl
  | cons hello rest ih =>
    rw [sessionCount] at hcount
    rw [AllRecognised, Unaliased]
    rcases h.call hello with hreuses | ⟨session, hopens⟩
    · rw [nextCreator, hreuses.opensAfter] at hcount ⊢
      rw [hreuses.recognised, hreuses.opens, hreuses.unchanged]
      exact and_congr_right' (ih h hcount)
    · rw [nextCreator, hopens.opensAfter] at hcount ⊢
      have hsmall : count + 1 < 2 ^ 32 :=
        Nat.lt_of_le_of_lt (count_le_sessionCount rest) hcount
      rw [hopens.opens]
      exact and_congr (iff_of_true (hopens.recognised hsmall) hopens.unmistaken)
        (ih hopens.agrees hcount)

theorem openedSessions_generations (h : Agrees device boot opened creator count store)
    (hellos : List Hello) :
    (openedSessions device boot store hellos).map AcceptedHello.generation =
      (List.range' count (sessionCount device boot creator count hellos - count)).map fun n =>
        nextGeneration (UInt32.ofNat n) := by
  induction hellos generalizing opened creator count store with
  | nil => simp [openedSessions, sessionCount]
  | cons hello rest ih =>
    rw [openedSessions, sessionCount]
    rcases h.call hello with hreuses | ⟨session, hopens⟩
    · rw [nextCreator, hreuses.opensAfter, hreuses.opens, hreuses.unchanged]
      exact ih h
    · rw [nextCreator, hopens.opensAfter, hopens.opens]
      have hrest := ih hopens.agrees
      have hle : count + 1 ≤ sessionCount device boot
        (some (hello, nextGeneration (UInt32.ofNat count))) (count + 1) rest :=
          count_le_sessionCount rest
      generalize hlast : sessionCount device boot
        (some (hello, nextGeneration (UInt32.ofNat count))) (count + 1) rest = last at hle hrest
      have hsplit : last - count = (last - (count + 1)) + 1 := by omega
      simp [hrest, hopens.generation, hlast, hsplit, List.range'_succ]

theorem generations_nodup_iff (n : Nat) :
    ((List.range' 0 n).map fun k => nextGeneration (UInt32.ofNat k)).Nodup ↔ n < 2 ^ 32 := by
  constructor
  · intro hnodup
    by_contra hlarge
    have hinj := List.inj_on_of_nodup_map hnodup
    have hwrapped : nextGeneration (UInt32.ofNat 0) =
        nextGeneration (UInt32.ofNat (2 ^ 32 - 1)) := by decide
    have hsame := hinj (List.mem_range'_1.mpr ⟨Nat.zero_le _, by omega⟩)
      (List.mem_range'_1.mpr ⟨Nat.zero_le _, by omega⟩) hwrapped
    exact absurd hsame (by decide)
  · intro hsmall
    refine List.Nodup.map_on (fun a ha b hb hsame => ?_) List.nodup_range'
    have hlt : ∀ k ∈ List.range' 0 n, k + 1 < 2 ^ 32 := fun k hk => by
      have := (List.mem_range'_1.mp hk).2
      omega
    have hvalue : ∀ k ∈ List.range' 0 n, nextGeneration (UInt32.ofNat k) = UInt32.ofNat (k + 1) := by
      intro k hk
      rw [nextGeneration_ofNat]
      exact max_one_eq_self (ofNat_ne_zero (Nat.succ_pos k) (hlt k hk))
    rw [hvalue a ha, hvalue b hb] at hsame
    have htoNat := congrArg UInt32.toNat hsame
    rw [UInt32.toNat_ofNat_of_lt' (hlt a ha), UInt32.toNat_ofNat_of_lt' (hlt b hb)] at htoNat
    omega

end Sequences

/-- Over a boot, every accepted hello is recognised and no two sessions share a generation exactly
if no hello is mistaken for the last creator and fewer than `2 ^ 32` sessions are opened. -/
theorem sessions_identified_iff (hellos : List Hello) :
    (AllRecognised device boot none {} hellos ∧
        ((openedSessions device boot {} hellos).map AcceptedHello.generation).Nodup) ↔
      Unaliased device boot none 0 hellos ∧ sessionCount device boot none 0 hellos < 2 ^ 32 := by
  rw [openedSessions_generations agrees_start hellos, Nat.sub_zero, generations_nodup_iff]
  exact and_congr_left fun hcount => allRecognised_iff agrees_start hcount

/-- A hello of the motherbrain under these two names. -/
def helloFrom (deviceId bootId : String) : Hello where
  role := .motherbrain
  deviceId := utf8 deviceId
  bootId := utf8 bootId
  handshakeNonce := utf8 "n"
  protocolMajor := 1
  protocolMinorMin := 0
  protocolMinorMax := 0
  supportedFeatures := [featureSessionIds]
  preferredHeartbeatMs := 500

/-- Moving one digit from the boot to the device yields the session of another device. -/
theorem shifted_hello_mistaken :
    ¬ ∀ hellos, AllRecognised (utf8 "brainstem") (utf8 "bsboot") none {} hellos ∧
      ((openedSessions (utf8 "brainstem") (utf8 "bsboot") {} hellos).map
        AcceptedHello.generation).Nodup := by
  intro h
  have hrecognised := (h [helloFrom "pete-1" "0", helloFrom "pete-" "10"]).1
  revert hrecognised
  decide +kernel

end Netherwick.Brainstem.Session
