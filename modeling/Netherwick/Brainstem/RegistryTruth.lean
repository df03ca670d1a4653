import Netherwick.Brainstem.LeaseExclusivity

/-! # What the registry knows of the leases

The registry records a lease when a message is answered and forgets it by its own clock. It tells
the truth as long as nothing but acknowledgements is recorded and its clock and the server's agree
on when they end. -/

namespace Netherwick.Brainstem

open Netherwick.Lib DhcpLeaseState NetworkRegistry

def leaseMs : Nat := dhcpLeaseSeconds * 1000

theorem leaseMs_eq : leaseMs = 3600000 := rfl

def lastGrant (sender : Sender) (served : List Served) : Option Served :=
  served.find? fun entry => entry.sender = sender && entry.answer.isSome

def Sender.hash (sender : Sender) : UInt32 := dhcpIdentityHash sender.leaseIdentity

namespace Network

/-- Somebody of this hash holds the address: it was acknowledged, and the lease table keeps it. -/
def Backed (net : Network) (nowMs : Nat) (id : UInt32) (ip : Ipv4) : Prop :=
  ∃ client : Sender, client.hash = id ∧ promised client ip nowMs net.served = true ∧
    ∃ untilMs, nowMs < untilMs ∧ net.leases.Holds client.leaseIdentity ip untilMs

/-- Every device that the registry reports after an action is backed by a lease, and a message leaves
the cells of the other clients with a lease alone. -/
structure Truthful (net : Network) (action : NetworkAction) : Prop where
  leased : ∀ slot, ((net.act action).registry.leases slot).active (UInt32.ofNat action.nowMs) = true →
    (net.act action).Backed action.nowMs ((net.act action).registry.leases slot).id
      ((net.act action).registry.leases slot).ip
  registered : ∀ ip ∈ (net.act action).registry.resolveMotherbrain (UInt32.ofNat action.nowMs),
    (net.act action).Backed action.nowMs (net.act action).registry.motherbrainLeaseId ip
  unevicted : ∀ message recordedMs, action.event = .dhcp message recordedMs →
    ∀ client ip, client ≠ message.sender → promised client ip action.nowMs net.served = true →
      ∀ slot, (net.registry.leases slot).id = client.hash →
        (net.act action).registry.leases slot = net.registry.leases slot

section Condition

variable (net : Network)

def known (sender : Sender) : Bool :=
  (net.registry.position (·.id = sender.hash)).isSome ||
    net.registry.motherbrainLeaseId == sender.hash

/-- The 32-bit clock has passed the records of leases and registrations that are over, and the
server's clock has not come to its end. -/
def Synchronous (nowMs : Nat) : Prop :=
  (∀ entry ∈ net.served, lastGrant entry.sender net.served = some entry →
      net.known entry.sender = true → entry.nowMs + leaseMs ≤ nowMs →
        timeReached (UInt32.ofNat nowMs) (UInt32.ofNat (entry.recordedMs + leaseMs)) = true) ∧
    (net.registry.motherbrainIp ≠ 0 → net.registeredUntilMs ≤ nowMs →
      timeReached (UInt32.ofNat nowMs) net.registry.motherbrainExpiryMs = true) ∧
    nowMs < 18446744073709551615

/-- Is there a slot for the sender, its own or a vacant one? -/
def servable (message : DhcpMessage) (nowMs : Nat) : Bool :=
  let leases := net.leases.clearExpired nowMs
  (leases.find (·.client.eq message.request.client)).isSome ||
    (leases.vacancy net.registry.leaseIdentityIsMotherbrain message.request.client).isSome

def inForce (nowMs : Nat) (entry : Served) : Bool :=
  entry.answer.any fun grant => promised entry.sender grant.leaseIp nowMs net.served

/-- No offer is made, no lease is released, the cell that a lease is recorded in is not another
lease's, and nothing is registered in the last second of a lease. -/
def Recordable (action : NetworkAction) : Prop :=
  match action.event with
  | .dhcp message _ =>
    (message.messageType = 1 → net.servable message action.nowMs = false) ∧
      (message.messageType = 7 → ∀ entry ∈ net.served, entry.sender = message.sender →
        net.inForce action.nowMs entry = false) ∧
      (message.messageType = 3 → net.servable message action.nowMs = true →
        ∀ entry ∈ net.served, entry.sender ≠ message.sender →
          net.inForce action.nowMs entry = true →
            (net.registry.leases (net.registry.recordSlot message.sender.hash)).id ≠
              entry.sender.hash)
  | .register identity ip .. =>
    ∀ slot ∈ net.registry.position (·.id = identityHash identity),
      (net.registry.leases slot).ip = ip →
        timeReached (UInt32.ofNat action.nowMs) (net.registry.leases slot).expiryMs = false →
          1000 ≤ ((net.registry.leases slot).expiryMs - UInt32.ofNat action.nowMs).toNat
  | _ => True

/-- The condition on an action, in the state that it finds. -/
def Faithful (action : NetworkAction) : Prop :=
  net.Synchronous action.nowMs ∧ net.Recordable action

instance (nowMs : Nat) : Decidable (net.Synchronous nowMs) :=
  inferInstanceAs (Decidable (_ ∧ _ ∧ _))

instance : ∀ action, Decidable (net.Recordable action)
  | ⟨_, .dhcp ..⟩ => inferInstanceAs (Decidable (_ ∧ _ ∧ _))
  | ⟨nowMs, .register identity ip ..⟩ => inferInstanceAs (Decidable
      (∀ slot ∈ net.registry.position (·.id = identityHash identity),
        (net.registry.leases slot).ip = ip →
          timeReached (UInt32.ofNat nowMs) (net.registry.leases slot).expiryMs = false →
            1000 ≤ ((net.registry.leases slot).expiryMs - UInt32.ofNat nowMs).toNat))
  | ⟨_, .replaceSession⟩ => .isTrue trivial
  | ⟨_, .elapse⟩ => .isTrue trivial

instance (action : NetworkAction) : Decidable (net.Faithful action) :=
  inferInstanceAs (Decidable (_ ∧ _))

end Condition

/-- The registry's cells are those of the last acknowledgements, and a registration ends with the
lease it was made for. -/
structure Recorded (net : Network) (sinceMs : Nat) : Prop where
  acked : ∀ client entry, lastGrant client net.served = some entry →
    ∃ ip, entry.answer = some ⟨5, ip⟩ ∧ ∀ atMs, sinceMs ≤ atMs → atMs < entry.nowMs + leaseMs →
      promised client ip atMs net.served = true
  timely : ∀ client entry, lastGrant client net.served = some entry →
    entry.nowMs ≤ entry.recordedMs ∧ entry.recordedMs ≤ net.nowMs
  termed : ∀ client ip atMs, sinceMs ≤ atMs → promised client ip atMs net.served = true →
    ∃ startMs, startMs ≤ net.nowMs ∧ atMs < startMs + leaseMs ∧
      reservedUntil client net.served = some (expiry startMs dhcpLeaseSeconds)
  cells : ∀ slot, (net.registry.leases slot).id ≠ 0 →
    ∃ client entry, client.hash = (net.registry.leases slot).id ∧
      lastGrant client net.served = some entry ∧
      entry.answer = some ⟨5, (net.registry.leases slot).ip⟩ ∧
      (net.registry.leases slot).expiryMs = UInt32.ofNat (entry.recordedMs + leaseMs)
  distinct : ∀ slot slot', (net.registry.leases slot).id ≠ 0 →
    (net.registry.leases slot).id = (net.registry.leases slot').id → slot = slot'
  registered : net.registry.motherbrainIp ≠ 0 →
    ∃ client : Sender, client.hash = net.registry.motherbrainLeaseId ∧
      (net.registeredUntilMs ≤ net.nowMs ∨
        ∃ entry, lastGrant client net.served = some entry ∧
          entry.answer = some ⟨5, net.registry.motherbrainIp⟩ ∧
          net.registeredUntilMs ≤ entry.recordedMs + leaseMs)

theorem recorded_empty : Recorded {} 0 where
  acked := by rintro _ _ ⟨⟩
  timely := by rintro _ _ ⟨⟩
  termed := by rintro _ _ _ - ⟨⟩
  cells _ h := (h rfl).elim
  distinct _ _ h := (h rfl).elim
  registered h := (h rfl).elim

theorem hash_ne_zero (client : Sender) : client.hash ≠ 0 := max_one_ne_zero _

section LastGrant

variable {client : Sender} {entry : Served} {past : List Served}

theorem lastGrant_mem (h : lastGrant client past = some entry) :
    entry ∈ past ∧ entry.sender = client := by
  have hfound := List.find?_some h
  rw [Bool.and_eq_true, decide_eq_true_eq] at hfound
  exact ⟨List.mem_of_find?_eq_some h, hfound.1⟩

theorem lastGrant_answered {new : Served} (h : new.answer.isSome = true) :
    lastGrant new.sender (new :: past) = some new := by
  simp [lastGrant, h]

theorem lastGrant_other {new : Served} (h : new.sender ≠ client ∨ new.answer = none) :
    lastGrant client (new :: past) = lastGrant client past := by
  rcases h with h | h <;> simp [lastGrant, h]

end LastGrant

variable {net : Network} {nowMs sinceMs : Nat} {client : Sender} {ip : Ipv4}

theorem Synchronous.ended {entry : Served} (h : net.Synchronous nowMs)
    (hgrant : lastGrant client net.served = some entry) (hknown : net.known client = true)
    (hpast : entry.recordedMs ≤ nowMs) (hopen : nowMs < entry.recordedMs + leaseMs) :
    nowMs < entry.nowMs + leaseMs := by
  obtain ⟨hmem, rfl⟩ := lastGrant_mem hgrant
  by_contra hover
  have hreached := h.1 entry hmem hgrant hknown (Nat.le_of_not_lt hover)
  have hnear : entry.recordedMs + leaseMs ≤ nowMs + 2147483648 := by
    rw [leaseMs_eq]
    omega
  rw [timeReached_before hopen hnear] at hreached
  cases hreached

theorem Synchronous.active {entry : Served} (h : net.Synchronous nowMs)
    (hgrant : lastGrant client net.served = some entry) (hknown : net.known client = true)
    (hactive : timeReached (UInt32.ofNat nowMs) (UInt32.ofNat (entry.recordedMs + leaseMs)) = false) :
    nowMs < entry.nowMs + leaseMs := by
  obtain ⟨hmem, rfl⟩ := lastGrant_mem hgrant
  by_contra hover
  rw [h.1 entry hmem hgrant hknown (Nat.le_of_not_lt hover)] at hactive
  cases hactive

theorem known_of_cell {slot : Fin 8} (h : client.hash = (net.registry.leases slot).id) :
    net.known client = true := by
  rw [known, Bool.or_eq_true]
  exact .inl (position_isSome slot (decide_eq_true h.symm))

section Message

variable {message : DhcpMessage} {recordedMs atMs : Nat} {grant : DhcpGrant}

theorem inForce_of_promised (h : promised client ip nowMs net.served = true) :
    ∃ entry ∈ net.served, entry.sender = client ∧ net.inForce nowMs entry = true := by
  obtain ⟨entry, hmem, rfl, hanswer⟩ := exists_of_promised h
  exact ⟨entry, hmem, rfl, by simp [inForce, hanswer, h]⟩

theorem isSome_answer {replyType : UInt8} {seconds : Nat}
    (h : term message.messageType = some (replyType, seconds)) :
    (net.answer message nowMs).isSome = net.servable message nowMs := by
  rw [answer_of_term h, Option.isSome_map, reserve, servable]
  cases (net.leases.clearExpired nowMs).find (·.client.eq message.request.client) with
  | some found => rfl
  | none =>
    cases (net.leases.clearExpired nowMs).vacancy net.registry.leaseIdentityIsMotherbrain
      message.request.client <;> rfl

theorem Recordable.answered (h : net.Recordable ⟨nowMs, .dhcp message recordedMs⟩)
    (hanswer : net.answer message nowMs = some grant) :
    message.messageType = 3 ∧ grant = ⟨5, grant.leaseIp⟩ ∧ net.servable message nowMs = true := by
  have hterm : term message.messageType ≠ none := fun hnone => by
    rw [answer_of_none hnone] at hanswer
    cases hanswer
  obtain ⟨⟨replyType, seconds⟩, hterm⟩ := Option.ne_none_iff_exists'.mp hterm
  have hservable : (net.answer message nowMs).isSome = net.servable message nowMs :=
    isSome_answer hterm
  rw [hanswer] at hservable
  rw [term] at hterm
  split at hterm
  · rename_i htype
    rw [h.1 htype] at hservable
    cases hservable
  · split at hterm
    · rename_i htype
      have hterm' : term message.messageType = some (5, dhcpLeaseSeconds) := by rw [htype]; rfl
      rw [answer_of_term hterm', Option.map_eq_some_iff] at hanswer
      obtain ⟨ip, -, rfl⟩ := hanswer
      exact ⟨htype, rfl, hservable.symm⟩
    · cases hterm

theorem Recordable.promised (h : net.Recordable ⟨nowMs, .dhcp message recordedMs⟩)
    (hat : nowMs ≤ atMs) (hpromised : promised client ip atMs net.served = true) :
    promised client ip atMs (net.act ⟨nowMs, .dhcp message recordedMs⟩).served = true := by
  by_cases hsender : message.sender = client
  · have hrelease : message.messageType ≠ 7 := by
      intro hrelease
      obtain ⟨entry, hmem, hentry, hforce⟩ := inForce_of_promised (promised_antitone hat hpromised)
      rw [h.2.1 hrelease entry hmem (hentry.trans hsender.symm)] at hforce
      cases hforce
    simp [act, Brainstem.promised, hsender, hrelease, hpromised]
  · exact (promised_other hsender).trans hpromised

theorem promised_acknowledged (htype : message.messageType = 3)
    (hanswer : net.answer message nowMs = some ⟨5, ip⟩) (hat : atMs < nowMs + leaseMs) :
    promised message.sender ip atMs (net.act ⟨nowMs, .dhcp message recordedMs⟩).served = true := by
  simp [act, promised, htype, hanswer, show atMs < nowMs + dhcpLeaseSeconds * 1000 from hat]

theorem record_none (h : net.answer message nowMs = none) :
    net.record message nowMs recordedMs = net.registry := by
  rw [record, h]

theorem record_some (h : net.answer message nowMs = some grant) :
    net.record message nowMs recordedMs = { net.registry with
      leases := fun slot =>
        if slot = net.registry.recordSlot message.sender.hash then
          ⟨message.sender.hash, grant.leaseIp, UInt32.ofNat (recordedMs + leaseMs)⟩
        else net.registry.leases slot } := by
  rw [record, h, UInt32.ofNat_add]
  simp only [recordLease, recordLeaseHash, DhcpMessage.leaseIdentity_request]
  rfl

theorem Recorded.acked_renewed {entry : Served} (h : Recorded net sinceMs)
    (hhonoured : Honoured net sinceMs) (hsince : sinceMs ≤ nowMs)
    (hkept : net.Kept ⟨nowMs, .dhcp message recordedMs⟩) (htype : message.messageType = 3)
    (hgrant : lastGrant message.sender net.served = some entry)
    (hack : entry.answer = some ⟨5, ip⟩) (hopen : nowMs < entry.nowMs + leaseMs) :
    net.answer message nowMs = some ⟨5, ip⟩ := by
  obtain ⟨ip', hack', hpromised⟩ := h.acked _ _ hgrant
  cases hack.symm.trans hack'
  have hnow := hpromised nowMs hsince hopen
  obtain ⟨untilMs, huntil, hholds⟩ := hhonoured.kept _ ip nowMs hsince hnow
  exact answer_renews hhonoured (by rw [htype]; rfl) hholds (hkept.promise hnow huntil)

theorem lastGrant_act {entry : Served}
    (h : lastGrant client (net.act ⟨nowMs, .dhcp message recordedMs⟩).served = some entry) :
    (message.sender = client ∧ (net.answer message nowMs).isSome = true ∧
        entry = ⟨client, message.messageType, nowMs, recordedMs, net.answer message nowMs⟩) ∨
      (message.sender ≠ client ∨ net.answer message nowMs = none) ∧
        lastGrant client net.served = some entry := by
  by_cases hother : message.sender ≠ client ∨ net.answer message nowMs = none
  · exact .inr ⟨hother, (lastGrant_other hother).symm.trans h⟩
  · rw [not_or, not_not] at hother
    obtain ⟨rfl, hanswer⟩ := hother
    have hsome := Option.isSome_iff_ne_none.mpr hanswer
    exact .inl ⟨rfl, hsome, Option.some.inj (h.symm.trans (lastGrant_answered hsome))⟩

theorem Recorded.termed_message (h : Recorded net sinceMs) (hhonoured : Honoured net sinceMs)
    (hsince : sinceMs ≤ nowMs) (horder : net.InOrder ⟨nowMs, .dhcp message recordedMs⟩)
    (hkept : net.Kept ⟨nowMs, .dhcp message recordedMs⟩)
    (hrecord : net.Recordable ⟨nowMs, .dhcp message recordedMs⟩) (hat : nowMs ≤ atMs)
    (hpromised :
      promised client ip atMs (net.act ⟨nowMs, .dhcp message recordedMs⟩).served = true) :
    ∃ startMs, startMs ≤ recordedMs ∧ atMs < startMs + leaseMs ∧
      reservedUntil client (net.act ⟨nowMs, .dhcp message recordedMs⟩).served =
        some (expiry startMs dhcpLeaseSeconds) := by
  obtain ⟨hbefore, hafter⟩ : net.nowMs ≤ nowMs ∧ nowMs ≤ recordedMs := horder
  have hpast : promised client ip atMs net.served = true → ∃ startMs, startMs ≤ nowMs ∧
      atMs < startMs + leaseMs ∧
        reservedUntil client net.served = some (expiry startMs dhcpLeaseSeconds) := fun hpast => by
    obtain ⟨startMs, hstart, hend, huntil⟩ := h.termed client ip atMs (hsince.trans hat) hpast
    exact ⟨startMs, hstart.trans hbefore, hend, huntil⟩
  by_cases hsender : message.sender = client
  · subst hsender
    obtain ⟨hrelease, hwhich⟩ := promised_own hpromised
    cases hterm : term message.messageType with
    | some found =>
      obtain ⟨replyType, seconds⟩ := found
      have hanswered : (net.answer message nowMs).isSome = true := by
        rcases hwhich with ⟨hack, -⟩ | hkeeps
        · exact Option.isSome_of_eq_some hack
        · have hnow := promised_antitone hat hkeeps
          obtain ⟨untilMs, huntil, hholds⟩ := hhonoured.kept _ ip nowMs hsince hnow
          exact Option.isSome_of_eq_some
            (answer_renews hhonoured hterm hholds (hkept.promise hnow huntil))
      obtain ⟨grant, hgrant⟩ := Option.isSome_iff_exists.mp hanswered
      obtain ⟨htype, -, -⟩ := hrecord.answered hgrant
      refine ⟨nowMs, hafter, ?_, reservedUntil_of_term (by simp only [htype]; rfl)⟩
      rcases hwhich with ⟨-, hend⟩ | hkeeps
      · exact hend
      · obtain ⟨startMs, hstart, hend, -⟩ := hpast hkeeps
        omega
    | none =>
      rcases hwhich with ⟨hack, -⟩ | hkeeps
      · cases (answer_of_none hterm).symm.trans hack
      · obtain ⟨startMs, hstart, hend, huntil⟩ := hpast hkeeps
        exact ⟨startMs, hstart.trans hafter, hend,
          (reservedUntil_of_other hterm hrelease).trans huntil⟩
  · obtain ⟨startMs, hstart, hend, huntil⟩ := hpast ((promised_other hsender).symm.trans hpromised)
    exact ⟨startMs, hstart.trans hafter, hend, (reservedUntil_other hsender).trans huntil⟩

theorem act_cell (net : Network) (message : DhcpMessage) (nowMs recordedMs : Nat) (slot : Fin 8) :
    (∃ grant, net.answer message nowMs = some grant ∧
        slot = net.registry.recordSlot message.sender.hash ∧
        (net.act ⟨nowMs, .dhcp message recordedMs⟩).registry.leases slot =
          ⟨message.sender.hash, grant.leaseIp, UInt32.ofNat (recordedMs + leaseMs)⟩) ∨
      (net.answer message nowMs = none ∨ slot ≠ net.registry.recordSlot message.sender.hash) ∧
        (net.act ⟨nowMs, .dhcp message recordedMs⟩).registry.leases slot =
          net.registry.leases slot := by
  cases hanswer : net.answer message nowMs with
  | none => exact .inr ⟨.inl rfl, by simp only [act, record_none hanswer]⟩
  | some grant =>
    by_cases hslot : slot = net.registry.recordSlot message.sender.hash
    · exact .inl ⟨grant, rfl, hslot, by simp only [act, record_some hanswer, if_pos hslot]⟩
    · exact .inr ⟨.inr hslot, by simp only [act, record_some hanswer, if_neg hslot]⟩

theorem Recorded.own_cell (h : Recorded net sinceMs) {slot : Fin 8}
    (hown : client.hash = (net.registry.leases slot).id) :
    slot = net.registry.recordSlot client.hash :=
  h.distinct _ _ (hown ▸ hash_ne_zero client) (hown.symm.trans (recordSlot_id hown.symm).symm)

theorem Recorded.cells_message (h : Recorded net sinceMs)
    (hrecord : net.Recordable ⟨nowMs, .dhcp message recordedMs⟩) {slot : Fin 8}
    (hid : ((net.act ⟨nowMs, .dhcp message recordedMs⟩).registry.leases slot).id ≠ 0) :
    ∃ client entry,
      client.hash = ((net.act ⟨nowMs, .dhcp message recordedMs⟩).registry.leases slot).id ∧
      lastGrant client (net.act ⟨nowMs, .dhcp message recordedMs⟩).served = some entry ∧
      entry.answer =
        some ⟨5, ((net.act ⟨nowMs, .dhcp message recordedMs⟩).registry.leases slot).ip⟩ ∧
      ((net.act ⟨nowMs, .dhcp message recordedMs⟩).registry.leases slot).expiryMs =
        UInt32.ofNat (entry.recordedMs + leaseMs) := by
  rcases act_cell net message nowMs recordedMs slot with ⟨grant, hanswer, -, hcell⟩ | ⟨hwhich, hcell⟩
  · rw [hcell]
    obtain ⟨-, hack, -⟩ := hrecord.answered hanswer
    exact ⟨message.sender, _, rfl, lastGrant_answered (Option.isSome_of_eq_some hanswer),
      hanswer.trans (congrArg some hack), rfl⟩
  · rw [hcell] at hid ⊢
    obtain ⟨client, entry, hhash, hgrant, hack, hexpiry⟩ := h.cells slot hid
    refine ⟨client, entry, hhash, (lastGrant_other ?_).trans hgrant, hack, hexpiry⟩
    by_cases hsender : message.sender = client
    · subst hsender
      exact .inr (hwhich.resolve_right (not_not.mpr (h.own_cell hhash)))
    · exact .inl hsender

theorem Recorded.distinct_message (h : Recorded net sinceMs) {slot slot' : Fin 8}
    (hid : ((net.act ⟨nowMs, .dhcp message recordedMs⟩).registry.leases slot).id ≠ 0)
    (hsame : ((net.act ⟨nowMs, .dhcp message recordedMs⟩).registry.leases slot).id =
      ((net.act ⟨nowMs, .dhcp message recordedMs⟩).registry.leases slot').id) : slot = slot' := by
  rcases act_cell net message nowMs recordedMs slot with ⟨_, -, hslot, hcell⟩ | ⟨-, hcell⟩ <;>
    rcases act_cell net message nowMs recordedMs slot' with ⟨_, -, hslot', hcell'⟩ | ⟨-, hcell'⟩ <;>
    rw [hcell, hcell'] at hsame
  · exact hslot.trans hslot'.symm
  · exact hslot.trans (h.own_cell hsame).symm
  · exact (h.own_cell hsame.symm).trans hslot'.symm
  · exact h.distinct slot slot' (hcell ▸ hid) hsame

theorem Recorded.registered_message (h : Recorded net sinceMs) (hhonoured : Honoured net sinceMs)
    (hsince : sinceMs ≤ nowMs) (horder : net.InOrder ⟨nowMs, .dhcp message recordedMs⟩)
    (hkept : net.Kept ⟨nowMs, .dhcp message recordedMs⟩)
    (hfaithful : net.Faithful ⟨nowMs, .dhcp message recordedMs⟩)
    (hip : net.registry.motherbrainIp ≠ 0) :
    ∃ client : Sender, client.hash = net.registry.motherbrainLeaseId ∧
      (net.registeredUntilMs ≤ recordedMs ∨
        ∃ entry, lastGrant client (net.act ⟨nowMs, .dhcp message recordedMs⟩).served = some entry ∧
          entry.answer = some ⟨5, net.registry.motherbrainIp⟩ ∧
          net.registeredUntilMs ≤ entry.recordedMs + leaseMs) := by
  obtain ⟨hclock, hrecord⟩ := hfaithful
  obtain ⟨hbefore, hafter⟩ : net.nowMs ≤ nowMs ∧ nowMs ≤ recordedMs := horder
  obtain ⟨client, hhash, hover | ⟨entry, hgrant, hack, hend⟩⟩ := h.registered hip
  · exact ⟨client, hhash, .inl (hover.trans (hbefore.trans hafter))⟩
  · refine ⟨client, hhash, ?_⟩
    by_cases hother : message.sender ≠ client ∨ net.answer message nowMs = none
    · exact .inr ⟨entry, (lastGrant_other hother).trans hgrant, hack, hend⟩
    · rw [not_or, not_not] at hother
      obtain ⟨rfl, hanswered⟩ := hother
      obtain ⟨grant, hanswer⟩ := Option.ne_none_iff_exists'.mp hanswered
      obtain ⟨htype, -, -⟩ := hrecord.answered hanswer
      by_cases hrecorded : nowMs < entry.recordedMs + leaseMs
      · -- The lease is not over either, so that it is renewed for the same address.
        have hknown : net.known message.sender = true := by simp [known, hhash]
        have hopen := hclock.ended hgrant hknown ((h.timely _ _ hgrant).2.trans hbefore) hrecorded
        refine .inr ⟨_, lastGrant_answered (Option.isSome_of_eq_some hanswer),
          h.acked_renewed hhonoured hsince hkept htype hgrant hack hopen, ?_⟩
        exact hend.trans (Nat.add_le_add_right ((h.timely _ _ hgrant).2.trans (hbefore.trans hafter)) _)
      · exact .inl (hend.trans ((Nat.le_of_not_lt hrecorded).trans hafter))

theorem Recorded.act_message (h : Recorded net sinceMs) (hhonoured : Honoured net sinceMs)
    (hsince : sinceMs ≤ nowMs) (horder : net.InOrder ⟨nowMs, .dhcp message recordedMs⟩)
    (hkept : net.Kept ⟨nowMs, .dhcp message recordedMs⟩)
    (hfaithful : net.Faithful ⟨nowMs, .dhcp message recordedMs⟩) :
    Recorded (net.act ⟨nowMs, .dhcp message recordedMs⟩) nowMs := by
  obtain ⟨hclock, hrecord⟩ := hfaithful
  have horder' : net.nowMs ≤ nowMs ∧ nowMs ≤ recordedMs := horder
  refine ⟨fun client entry hgrant => ?_, fun client entry hgrant => ?_,
    fun client ip atMs hat hpromised =>
      h.termed_message hhonoured hsince horder hkept hrecord hat hpromised, ?_, ?_, ?_⟩
  · rcases lastGrant_act hgrant with ⟨rfl, hanswered, rfl⟩ | ⟨-, hold⟩
    · obtain ⟨grant, hanswer⟩ := Option.isSome_iff_exists.mp hanswered
      obtain ⟨htype, hack, -⟩ := hrecord.answered hanswer
      rw [hack] at hanswer
      exact ⟨grant.leaseIp, hanswer, fun atMs _ hend => promised_acknowledged htype hanswer hend⟩
    · obtain ⟨ip, hack, hpromised⟩ := h.acked client entry hold
      exact ⟨ip, hack, fun atMs hat hend =>
        hrecord.promised hat (hpromised atMs (hsince.trans hat) hend)⟩
  · rcases lastGrant_act hgrant with ⟨rfl, -, rfl⟩ | ⟨-, hold⟩
    · exact ⟨horder'.2, le_refl _⟩
    · obtain ⟨hserved, hrecorded⟩ := h.timely client entry hold
      exact ⟨hserved, hrecorded.trans (horder'.1.trans horder'.2)⟩
  · exact fun slot hid => h.cells_message hrecord hid
  · exact fun slot slot' hid hsame => h.distinct_message hid hsame
  · have hfields : ∀ {registry : NetworkRegistry},
        net.record message nowMs recordedMs = registry →
          registry.motherbrainIp = net.registry.motherbrainIp ∧
            registry.motherbrainLeaseId = net.registry.motherbrainLeaseId := by
      rintro _ rfl
      cases hanswer : net.answer message nowMs with
      | none => rw [record_none hanswer]; exact ⟨rfl, rfl⟩
      | some grant => rw [record_some hanswer]; exact ⟨rfl, rfl⟩
    obtain ⟨hip, hid⟩ := hfields rfl
    simp only [act, hip, hid]
    exact fun hregistered =>
      h.registered_message hhonoured hsince horder hkept ⟨hclock, hrecord⟩ hregistered

end Message

theorem Recorded.later (h : Recorded net sinceMs) {net' : Network}
    (hserved : net'.served = net.served) (hcells : net'.registry.leases = net.registry.leases)
    (hsince : sinceMs ≤ nowMs) (hnow : net.nowMs ≤ net'.nowMs)
    (hregistered : net'.registry.motherbrainIp ≠ 0 →
      ∃ client : Sender, client.hash = net'.registry.motherbrainLeaseId ∧
        (net'.registeredUntilMs ≤ net'.nowMs ∨
          ∃ entry, lastGrant client net'.served = some entry ∧
            entry.answer = some ⟨5, net'.registry.motherbrainIp⟩ ∧
            net'.registeredUntilMs ≤ entry.recordedMs + leaseMs)) : Recorded net' nowMs where
  acked client entry hgrant := by
    rw [hserved] at hgrant ⊢
    obtain ⟨ip, hack, hpromised⟩ := h.acked client entry hgrant
    exact ⟨ip, hack, fun atMs hat => hpromised atMs (hsince.trans hat)⟩
  timely client entry hgrant := by
    rw [hserved] at hgrant
    exact ⟨(h.timely client entry hgrant).1, (h.timely client entry hgrant).2.trans hnow⟩
  termed client ip atMs hat hpromised := by
    rw [hserved] at hpromised ⊢
    obtain ⟨startMs, hstart, hrest⟩ := h.termed client ip atMs (hsince.trans hat) hpromised
    exact ⟨startMs, hstart.trans hnow, hrest⟩
  cells := by
    rw [hserved, hcells]
    exact h.cells
  distinct := by
    rw [hcells]
    exact h.distinct
  registered := hregistered

theorem Recorded.registered_later (h : Recorded net sinceMs) (hnow : net.nowMs ≤ nowMs)
    (hip : net.registry.motherbrainIp ≠ 0) :
    ∃ client : Sender, client.hash = net.registry.motherbrainLeaseId ∧
      (net.registeredUntilMs ≤ nowMs ∨
        ∃ entry, lastGrant client net.served = some entry ∧
          entry.answer = some ⟨5, net.registry.motherbrainIp⟩ ∧
          net.registeredUntilMs ≤ entry.recordedMs + leaseMs) := by
  obtain ⟨client, hhash, hwhich⟩ := h.registered hip
  exact ⟨client, hhash, hwhich.imp_left hnow.trans'⟩

theorem Recorded.active (h : Recorded net sinceMs) (hclock : net.Synchronous nowMs) {slot : Fin 8}
    (hid : (net.registry.leases slot).id ≠ 0)
    (hopen : timeReached (UInt32.ofNat nowMs) (net.registry.leases slot).expiryMs = false) :
    ∃ client entry, client.hash = (net.registry.leases slot).id ∧
      lastGrant client net.served = some entry ∧
      entry.answer = some ⟨5, (net.registry.leases slot).ip⟩ ∧
      (net.registry.leases slot).expiryMs = UInt32.ofNat (entry.recordedMs + leaseMs) ∧
      nowMs < entry.nowMs + leaseMs := by
  obtain ⟨client, entry, hhash, hgrant, hack, hexpiry⟩ := h.cells slot hid
  rw [hexpiry] at hopen
  exact ⟨client, entry, hhash, hgrant, hack, hexpiry,
    hclock.active hgrant (known_of_cell hhash) hopen⟩

theorem remaining_eq {untilMs : Nat} (hlt : nowMs < untilMs) (hnear : untilMs ≤ nowMs + leaseMs) :
    (UInt32.ofNat untilMs - UInt32.ofNat nowMs).toNat = untilMs - nowMs := by
  rw [leaseMs_eq] at hnear
  rw [UInt32.toNat_sub, UInt32.toNat_ofNat', UInt32.toNat_ofNat']
  omega

section Register

variable {identity : List UInt8} {peerDeviceHash peerBootHash requestedTtlSeconds : UInt32}

theorem Recorded.act_register (h : Recorded net sinceMs) (hsince : sinceMs ≤ nowMs)
    (hnow : net.nowMs ≤ nowMs)
    (hfaithful : net.Faithful
      ⟨nowMs, .register identity ip peerDeviceHash peerBootHash requestedTtlSeconds⟩) :
    Recorded (net.act
      ⟨nowMs, .register identity ip peerDeviceHash peerBootHash requestedTtlSeconds⟩) nowMs := by
  have hclock : net.Synchronous nowMs := hfaithful.1
  have hrecord := hfaithful.2
  rcases registerMotherbrain_cases net.registry identity ip peerDeviceHash peerBootHash
    requestedTtlSeconds (UInt32.ofNat nowMs) with hnone |
      ⟨slot, generation, counter, hposition, hip, hopen, hsome⟩
  · have hact : net.act ⟨nowMs, .register identity ip peerDeviceHash peerBootHash
        requestedTtlSeconds⟩ = { net with nowMs } := by
      simp only [act, register, hnone]
    rw [hact]
    exact h.later rfl rfl hsince hnow (h.registered_later hnow)
  · have hact : (net.act ⟨nowMs, .register identity ip peerDeviceHash peerBootHash
        requestedTtlSeconds⟩).registeredUntilMs = nowMs + (registrationTtl requestedTtlSeconds
          (net.registry.leases slot).expiryMs (UInt32.ofNat nowMs)).toNat * 1000 := by
      simp only [act, register, hsome]
    refine h.later rfl (by simp only [act, register, hsome]) hsince hnow fun _ => ?_
    rw [hact]
    simp only [act, register, hsome]
    have hid : (net.registry.leases slot).id = identityHash identity := by
      simpa using position_eq_some hposition
    obtain ⟨client, entry, hhash, hgrant, hack, hexpiry, hlease⟩ :=
      h.active hclock (hid ▸ max_one_ne_zero _) hopen
    refine ⟨client, hhash.trans hid, .inr ⟨entry, hgrant, hip ▸ hack, ?_⟩⟩
    obtain ⟨hserved, hrecorded⟩ := h.timely client entry hgrant
    have hremaining : (UInt32.ofNat (entry.recordedMs + leaseMs) - UInt32.ofNat nowMs).toNat =
        entry.recordedMs + leaseMs - nowMs := remaining_eq (by omega) (by omega)
    have hlong : 1000 ≤ ((net.registry.leases slot).expiryMs - UInt32.ofNat nowMs).toNat :=
      hrecord slot hposition hip hopen
    have hlast := registrationTtl_le requestedTtlSeconds hlong
    rw [hexpiry, hremaining] at hlast
    rw [hexpiry]
    omega

end Register

theorem Recorded.act {action : NetworkAction} (h : Recorded net sinceMs)
    (hhonoured : Honoured net sinceMs) (hsince : sinceMs ≤ action.nowMs)
    (horder : net.InOrder action) (hkept : net.Kept action) (hfaithful : net.Faithful action) :
    Recorded (net.act action) action.nowMs := by
  obtain ⟨nowMs, event⟩ := action
  cases event with
  | dhcp message recordedMs => exact h.act_message hhonoured hsince horder hkept hfaithful
  | register => exact h.act_register hsince horder.1 hfaithful
  | replaceSession => exact h.later rfl rfl hsince horder.1 fun hip => (hip rfl).elim
  | elapse => exact h.later rfl rfl hsince horder.1 (h.registered_later horder.1)

theorem Recorded.backed (h : Recorded net sinceMs) (hhonoured : Honoured net sinceMs)
    (hsince : sinceMs ≤ nowMs) (hclock : nowMs < 18446744073709551615)
    (hpromised : promised client ip nowMs net.served = true) :
    net.Backed nowMs client.hash ip := by
  obtain ⟨untilMs, huntil, hholds⟩ := hhonoured.kept client ip nowMs hsince hpromised
  obtain ⟨startMs, -, hend, hterm⟩ := h.termed client ip nowMs hsince hpromised
  refine ⟨client, rfl, hpromised, untilMs, ?_, hholds⟩
  rw [Option.some.inj (huntil.symm.trans hterm), expiry, saturatingAdd, lt_min_iff]
  exact ⟨hend, hclock⟩

theorem Recorded.leased {action : NetworkAction} (h : Recorded net sinceMs)
    (hhonoured : Honoured net sinceMs) (hsince : sinceMs ≤ action.nowMs)
    (horder : net.InOrder action) (hkept : net.Kept action) (hfaithful : net.Faithful action)
    {slot : Fin 8} (hactive :
      ((net.act action).registry.leases slot).active (UInt32.ofNat action.nowMs) = true) :
    (net.act action).Backed action.nowMs ((net.act action).registry.leases slot).id
      ((net.act action).registry.leases slot).ip := by
  have hnext := h.act hhonoured hsince horder hkept hfaithful
  have hnext' := hhonoured.act hsince hkept
  have hend := hfaithful.1.2.2
  rw [LeaseCell.active, Bool.and_eq_true, bne_iff_ne, Bool.not_eq_true'] at hactive
  obtain ⟨hid, hopen⟩ := hactive
  suffices hsource : ∃ client entry,
      client.hash = ((net.act action).registry.leases slot).id ∧
        lastGrant client (net.act action).served = some entry ∧
        entry.answer = some ⟨5, ((net.act action).registry.leases slot).ip⟩ ∧
        action.nowMs < entry.nowMs + leaseMs by
    obtain ⟨client, entry, hhash, hgrant, hack, hlease⟩ := hsource
    obtain ⟨ip, hack', hpromised⟩ := hnext.acked client entry hgrant
    cases hack.symm.trans hack'
    exact hhash ▸ hnext.backed hnext' le_rfl hend (hpromised _ le_rfl hlease)
  obtain ⟨nowMs, event⟩ := action
  cases event with
  | dhcp message recordedMs =>
    rcases act_cell net message nowMs recordedMs slot with
      ⟨grant, hanswer, -, hcell⟩ | ⟨hwhich, hcell⟩
    · obtain ⟨-, hack, -⟩ := hfaithful.2.answered hanswer
      rw [hcell]
      refine ⟨message.sender, _, rfl, lastGrant_answered (Option.isSome_of_eq_some hanswer),
        hanswer.trans (congrArg some hack), ?_⟩
      exact Nat.lt_add_of_pos_right (by decide)
    · rw [hcell] at hid hopen ⊢
      obtain ⟨client, entry, hhash, hgrant, hack, -, hlease⟩ := h.active hfaithful.1 hid hopen
      refine ⟨client, entry, hhash, (lastGrant_other ?_).trans hgrant, hack, hlease⟩
      by_cases hsender : message.sender = client
      · subst hsender
        exact .inr (hwhich.resolve_right (not_not.mpr (h.own_cell hhash)))
      · exact .inl hsender
  | register identity ip peerDeviceHash peerBootHash requestedTtlSeconds =>
    have hcells : (net.act ⟨nowMs, .register identity ip peerDeviceHash peerBootHash
        requestedTtlSeconds⟩).registry.leases = net.registry.leases := by
      rcases registerMotherbrain_cases net.registry identity ip peerDeviceHash peerBootHash
        requestedTtlSeconds (UInt32.ofNat nowMs) with hnone | ⟨_, _, _, -, -, -, hsome⟩
      · simp only [Network.act, register, hnone]
      · simp only [Network.act, register, hsome]
    rw [hcells] at hid hopen ⊢
    obtain ⟨client, entry, hhash, hgrant, hack, -, hlease⟩ := h.active hfaithful.1 hid hopen
    exact ⟨client, entry, hhash, hgrant, hack, hlease⟩
  | replaceSession =>
    obtain ⟨client, entry, hhash, hgrant, hack, -, hlease⟩ := h.active hfaithful.1 hid hopen
    exact ⟨client, entry, hhash, hgrant, hack, hlease⟩
  | elapse =>
    obtain ⟨client, entry, hhash, hgrant, hack, -, hlease⟩ := h.active hfaithful.1 hid hopen
    exact ⟨client, entry, hhash, hgrant, hack, hlease⟩

theorem Recorded.covered (h : Recorded net sinceMs) (hclock : net.Synchronous nowMs)
    (hnow : net.nowMs ≤ nowMs)
    (hip : ip ∈ net.registry.resolveMotherbrain (UInt32.ofNat nowMs)) :
    ∃ client entry, client.hash = net.registry.motherbrainLeaseId ∧
      lastGrant client net.served = some entry ∧ entry.answer = some ⟨5, ip⟩ ∧
      nowMs < entry.nowMs + leaseMs := by
  rw [Option.mem_def, resolveMotherbrain] at hip
  split at hip
  · cases hip
  · rename_i hlive
    rw [Bool.or_eq_true, not_or, decide_eq_true_eq, Bool.not_eq_true] at hlive
    obtain ⟨hset, hopen⟩ := hlive
    cases hip
    have hlt : nowMs < net.registeredUntilMs := by
      by_contra hover
      rw [hclock.2.1 hset (Nat.le_of_not_lt hover)] at hopen
      cases hopen
    obtain ⟨client, hhash, hover | ⟨entry, hgrant, hack, hend⟩⟩ := h.registered hset
    · exact absurd (hover.trans hnow) (Nat.not_le_of_lt hlt)
    · have hknown : net.known client = true := by simp [known, hhash]
      exact ⟨client, entry, hhash, hgrant, hack, hclock.ended hgrant hknown
        ((h.timely client entry hgrant).2.trans hnow) (hlt.trans_le hend)⟩

theorem Recorded.reported {action : NetworkAction} (h : Recorded net sinceMs)
    (hhonoured : Honoured net sinceMs) (hsince : sinceMs ≤ action.nowMs)
    (horder : net.InOrder action) (hkept : net.Kept action) (hfaithful : net.Faithful action)
    (hip : ip ∈ (net.act action).registry.resolveMotherbrain (UInt32.ofNat action.nowMs)) :
    (net.act action).Backed action.nowMs (net.act action).registry.motherbrainLeaseId ip := by
  have hnext := h.act hhonoured hsince horder hkept hfaithful
  have hnext' := hhonoured.act hsince hkept
  have hend := hfaithful.1.2.2
  suffices hsource : ∃ client entry,
      client.hash = (net.act action).registry.motherbrainLeaseId ∧
        lastGrant client (net.act action).served = some entry ∧ entry.answer = some ⟨5, ip⟩ ∧
        action.nowMs < entry.nowMs + leaseMs by
    obtain ⟨client, entry, hhash, hgrant, hack, hlease⟩ := hsource
    obtain ⟨ip', hack', hpromised⟩ := hnext.acked client entry hgrant
    cases hack.symm.trans hack'
    exact hhash ▸ hnext.backed hnext' le_rfl hend (hpromised _ le_rfl hlease)
  obtain ⟨nowMs, event⟩ := action
  cases event with
  | dhcp message recordedMs =>
    obtain ⟨hsame, hid⟩ : (net.record message nowMs recordedMs).resolveMotherbrain
        (UInt32.ofNat nowMs) = net.registry.resolveMotherbrain (UInt32.ofNat nowMs) ∧
          (net.record message nowMs recordedMs).motherbrainLeaseId =
            net.registry.motherbrainLeaseId := by
      cases hanswer : net.answer message nowMs with
      | none => rw [record_none hanswer]; exact ⟨rfl, rfl⟩
      | some grant => rw [record_some hanswer]; exact ⟨rfl, rfl⟩
    obtain ⟨client, entry, hhash, hgrant, hack, hlease⟩ :=
      h.covered hfaithful.1 horder.1 (hsame ▸ hip)
    by_cases hother : message.sender ≠ client ∨ net.answer message nowMs = none
    · exact ⟨client, entry, hhash.trans hid.symm, (lastGrant_other hother).trans hgrant, hack,
        hlease⟩
    · rw [not_or, not_not] at hother
      obtain ⟨rfl, hanswered⟩ := hother
      obtain ⟨grant, hanswer⟩ := Option.ne_none_iff_exists'.mp hanswered
      obtain ⟨htype, -, -⟩ := hfaithful.2.answered hanswer
      refine ⟨_, _, hhash.trans hid.symm,
        lastGrant_answered (Option.isSome_of_eq_some hanswer),
        h.acked_renewed hhonoured hsince hkept htype hgrant hack hlease, ?_⟩
      exact Nat.lt_add_of_pos_right (by decide)
  | register identity ip' peerDeviceHash peerBootHash requestedTtlSeconds =>
    rcases registerMotherbrain_cases net.registry identity ip' peerDeviceHash peerBootHash
      requestedTtlSeconds (UInt32.ofNat nowMs) with hnone |
        ⟨slot, generation, counter, hposition, hslot, hopen, hsome⟩
    · simp only [Network.act, register, hnone] at hip ⊢
      exact h.covered hfaithful.1 horder.1 hip
    · simp only [Network.act, register, hsome] at hip ⊢
      have hid : (net.registry.leases slot).id = identityHash identity := by
        simpa using position_eq_some hposition
      obtain ⟨client, entry, hhash, hgrant, hack, -, hlease⟩ :=
        h.active hfaithful.1 (hid ▸ max_one_ne_zero _) hopen
      rw [Option.mem_def, resolveMotherbrain] at hip
      split at hip
      · cases hip
      · cases hip
        exact ⟨client, entry, hhash.trans hid, hgrant, hslot ▸ hack, hlease⟩
  | replaceSession => cases hip
  | elapse => exact h.covered hfaithful.1 horder.1 hip

theorem Recordable.unevicted {message : DhcpMessage} {recordedMs : Nat}
    (h : net.Recordable ⟨nowMs, .dhcp message recordedMs⟩) (hother : client ≠ message.sender)
    (hpromised : Brainstem.promised client ip nowMs net.served = true) {slot : Fin 8}
    (hslot : (net.registry.leases slot).id = client.hash) :
    (net.act ⟨nowMs, .dhcp message recordedMs⟩).registry.leases slot =
      net.registry.leases slot := by
  rcases act_cell net message nowMs recordedMs slot with ⟨grant, hanswer, hwritten, -⟩ | ⟨-, hcell⟩
  · obtain ⟨htype, -, hservable⟩ := h.answered hanswer
    obtain ⟨entry, hmem, rfl, hforce⟩ := inForce_of_promised hpromised
    exact absurd (hwritten ▸ hslot) (h.2.2 htype hservable entry hmem hother hforce)
  · exact hcell

/-- The registry reports leases that are held, and keeps them apart, along every run in which only
acknowledgements are recorded and the clocks agree on when leases end. -/
theorem registry_truthful (actions : List NetworkAction)
    (horder : Along Network.act InOrder {} actions) (hkept : Along Network.act Kept {} actions)
    (hfaithful : Along Network.act Faithful {} actions) :
    Along Network.act Truthful {} actions := by
  have hstep : ∀ net action, (Honoured net net.nowMs ∧ Recorded net net.nowMs) →
      (InOrder net action ∧ Kept net action) ∧ Faithful net action →
        (Honoured (net.act action) (net.act action).nowMs ∧
          Recorded (net.act action) (net.act action).nowMs) ∧ Truthful net action := by
    rintro net action ⟨hhonoured, hrecorded⟩ ⟨⟨horder, hkept⟩, hfaithful⟩
    have hnext := hrecorded.act hhonoured horder.1 horder hkept hfaithful
    refine ⟨⟨hhonoured.step horder hkept, ?_⟩, ⟨fun slot hactive => ?_, fun ip hip => ?_, ?_⟩⟩
    · exact hnext.later rfl rfl horder.2 le_rfl (hnext.registered_later le_rfl)
    · exact hrecorded.leased hhonoured horder.1 horder hkept hfaithful hactive
    · exact hrecorded.reported hhonoured horder.1 horder hkept hfaithful hip
    · rintro message recordedMs hevent client ip hother hpromised slot hslot
      obtain ⟨nowMs, event⟩ := action
      subst hevent
      exact hfaithful.2.unevicted hother hpromised hslot
  exact ((horder.and hkept).and hfaithful).of_invariant hstep ⟨honoured_empty, recorded_empty⟩

section Example

/-- A client gets a lease, registers as the motherbrain, renews and lets the lease end. -/
def registering : List NetworkAction :=
  [packet 1 3 0,
    ⟨10, .register (hex [0, 0, 0, 0, 0, 1]) (poolIp 0) 7 8 60⟩,
    packet 1 3 30000, packet 2 3 40000, ⟨3700000, .elapse⟩]

theorem registry_truthful_renewed : Along Network.act Truthful {} registering :=
  registry_truthful _ (by decide +kernel) (by decide +kernel) (by decide +kernel)

/-- An offer is reported as a lease. -/
theorem offer_reported_leased :
    Along Network.act InOrder {} [packet 1 1 0] ∧
      ¬ Along Network.act Truthful {} [packet 1 1 0] := by
  refine ⟨by decide +kernel, fun h => ?_⟩
  obtain ⟨client, -, hpromised, -⟩ := h.1.leased 0 (by decide +kernel)
  obtain ⟨entry, hmem, -, hanswer⟩ := exists_of_promised hpromised
  rw [List.mem_singleton.mp hmem] at hanswer
  revert hanswer
  decide +kernel

end Example

end Network

end Netherwick.Brainstem
