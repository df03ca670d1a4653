import Netherwick.Brainstem.LeaseTable

/-! # Whose address it is

An acknowledged address stays with its client for the advertised time, unless the client lets an
offer in between run out: the offer shortens the lease. -/

namespace Netherwick.Brainstem

open Netherwick.Lib DhcpLeaseState

namespace Network

/-- Messages find the promises of the others in force. No client with a promise has left an offer to
run out, and none is taken for another. -/
def Kept (net : Network) (action : NetworkAction) : Prop :=
  match action.event with
  | .dhcp message _ =>
    ∀ client ip, promised client ip action.nowMs net.served = true →
      (∃ untilMs ∈ reservedUntil client net.served, action.nowMs < untilMs) ∧
        (client ≠ message.sender → message.messageType ∈ [1, 3, 7] →
          client.leaseIdentity ≠ message.sender.leaseIdentity)
  | _ => True

/-- An address is neither offered nor acknowledged to one client while it is promised to another, a
client with a promise is given its address again, and no address is promised or reserved twice. -/
structure Exclusive (net : Network) (action : NetworkAction) : Prop where
  granted : ∀ message recordedMs, action.event = .dhcp message recordedMs →
    ∀ grant ∈ net.answer message action.nowMs, ∀ client, client ≠ message.sender →
      promised client grant.leaseIp action.nowMs net.served = false
  renewed : ∀ message recordedMs, action.event = .dhcp message recordedMs →
    ∀ ip, promised message.sender ip action.nowMs net.served = true →
      (message.messageType = 1 → net.answer message action.nowMs = some ⟨2, ip⟩) ∧
        (message.messageType = 3 → net.answer message action.nowMs = some ⟨5, ip⟩)
  holders : ∀ atMs, action.nowMs ≤ atMs → ∀ client other ip,
    promised client ip atMs (net.act action).served = true →
      promised other ip atMs (net.act action).served = true → client = other
  table : ∀ slot slot' lease lease', (net.act action).leases slot = some lease →
    (net.act action).leases slot' = some lease' → lease.ip = lease'.ip → slot = slot'

/-- The table keeps what the messages promise from some time on. -/
structure Honoured (net : Network) (sinceMs : Nat) : Prop where
  orderly : net.leases.Orderly
  kept : ∀ client ip atMs, sinceMs ≤ atMs → promised client ip atMs net.served = true →
    ∃ untilMs, reservedUntil client net.served = some untilMs ∧
      net.leases.Holds client.leaseIdentity ip untilMs
  apart : ∀ client other ip ip' atMs, sinceMs ≤ atMs →
    promised client ip atMs net.served = true → promised other ip' atMs net.served = true →
      client.leaseIdentity = other.leaseIdentity → client = other

theorem honoured_empty : Honoured {} 0 where
  orderly := orderly_empty
  kept := by rintro _ _ _ - ⟨⟩
  apart := by rintro _ _ _ _ _ - ⟨⟩

variable {net : Network} {action : NetworkAction} {sinceMs : Nat}

theorem Honoured.holders (h : Honoured net sinceMs) {atMs : Nat} (hat : sinceMs ≤ atMs)
    {client other : Sender} {ip : Ipv4} (hclient : promised client ip atMs net.served = true)
    (hother : promised other ip atMs net.served = true) : client = other := by
  obtain ⟨u, -, hu⟩ := h.kept client ip atMs hat hclient
  obtain ⟨v, -, hv⟩ := h.kept other ip atMs hat hother
  exact h.apart client other ip ip atMs hat hclient hother (h.orderly.holds_ip hu hv)

section Message

variable {message : DhcpMessage} {recordedMs nowMs : Nat} {client : Sender} {ip : Ipv4} {atMs : Nat}
  {past : List Served} {entry : Served}

theorem promised_other (h : entry.sender ≠ client) :
    promised client ip atMs (entry :: past) = promised client ip atMs past := by
  simp [promised, h]

theorem reservedUntil_other (h : entry.sender ≠ client) :
    reservedUntil client (entry :: past) = reservedUntil client past := by
  simp [reservedUntil, h]

theorem promised_own (h : promised entry.sender ip atMs (entry :: past) = true) :
    entry.messageType ≠ 7 ∧
      (entry.answer = some ⟨5, ip⟩ ∧ atMs < entry.nowMs + dhcpLeaseSeconds * 1000 ∨
        promised entry.sender ip atMs past = true) := by
  simpa only [promised, if_true, Bool.and_eq_true, Bool.or_eq_true, bne_iff_ne,
    decide_eq_true_eq] using h

theorem reservedUntil_of_term {replyType : UInt8} {seconds : Nat}
    (h : term entry.messageType = some (replyType, seconds)) :
    reservedUntil entry.sender (entry :: past) = some (expiry entry.nowMs seconds) := by
  rw [term] at h
  split at h
  · rename_i htype
    cases h
    simp [reservedUntil, htype]
  · rename_i hone
    split at h
    · rename_i hthree
      cases h
      simp [reservedUntil, hthree]
    · cases h

theorem reservedUntil_of_other (h : term entry.messageType = none)
    (hrelease : entry.messageType ≠ 7) :
    reservedUntil entry.sender (entry :: past) = reservedUntil entry.sender past := by
  rw [term] at h
  split at h
  · cases h
  · rename_i hone
    split at h
    · cases h
    · rename_i hthree
      simp [reservedUntil, hone, hthree, hrelease]

theorem mem_of_term {messageType : UInt8} (h : term messageType ≠ none ∨ messageType = 7) :
    messageType ∈ [1, 3, 7] := by
  rcases h with h | rfl
  · rw [term] at h
    split at h
    · rename_i htype
      simp [htype]
    · split at h
      · rename_i htype
        simp [htype]
      · exact absurd rfl h
  · simp

theorem answer_of_term {replyType : UInt8} {seconds : Nat}
    (h : term message.messageType = some (replyType, seconds)) :
    net.answer message nowMs = ((net.leases.clearExpired nowMs).reserve
      net.registry.leaseIdentityIsMotherbrain message.request.client nowMs seconds).1.map
        (⟨replyType, ·⟩) := by
  rw [answer, serve, grant_of_term h]

theorem answer_of_none (h : term message.messageType = none) : net.answer message nowMs = none := by
  rw [answer, serve]
  by_cases hrelease : message.messageType = 7
  · rw [grant_of_release hrelease]
  · rw [grant_of_other h hrelease]

theorem answer_renews {replyType : UInt8} {seconds untilMs : Nat} (h : Honoured net sinceMs)
    (hterm : term message.messageType = some (replyType, seconds))
    (hholds : net.leases.Holds message.sender.leaseIdentity ip untilMs) (hnow : nowMs < untilMs) :
    net.answer message nowMs = some ⟨replyType, ip⟩ := by
  have hheld := hholds.clearExpired hnow
  rw [← message.leaseIdentity_request] at hheld
  rw [answer_of_term hterm, h.orderly.clearExpired.reserve_renews hheld]
  rfl

theorem holds_answer {replyType : UInt8} {seconds : Nat} {grant : DhcpGrant}
    (hterm : term message.messageType = some (replyType, seconds))
    (h : net.answer message nowMs = some grant) :
    (net.serve message nowMs).2.Holds message.sender.leaseIdentity grant.leaseIp
      (expiry nowMs seconds) := by
  rw [answer_of_term hterm, Option.map_eq_some_iff] at h
  obtain ⟨ip, hip, rfl⟩ := h
  rw [serve, grant_of_term hterm,
    ← message.leaseIdentity_request]
  exact holds_reserve hip

theorem answer_unheld {grant : DhcpGrant} {untilMs : Nat} (h : Honoured net sinceMs)
    (hanswer : net.answer message nowMs = some grant)
    (hholds : net.leases.Holds client.leaseIdentity grant.leaseIp untilMs)
    (hnow : nowMs < untilMs) : client.leaseIdentity = message.sender.leaseIdentity := by
  cases hterm : term message.messageType with
  | none =>
    rw [answer_of_none hterm] at hanswer
    cases hanswer
  | some found =>
    rw [answer_of_term hterm, Option.map_eq_some_iff] at hanswer
    obtain ⟨ip, hip, rfl⟩ := hanswer
    rw [← message.leaseIdentity_request]
    exact h.orderly.clearExpired.reserve_unheld hip (hholds.clearExpired hnow)

theorem Kept.promise {untilMs : Nat} (hkept : net.Kept ⟨nowMs, .dhcp message recordedMs⟩)
    (hpromised : promised client ip nowMs net.served = true)
    (huntil : reservedUntil client net.served = some untilMs) : nowMs < untilMs := by
  obtain ⟨⟨found, hfound, hlt⟩, -⟩ := hkept client ip hpromised
  cases huntil.symm.trans hfound
  exact hlt

theorem Honoured.act_message (h : Honoured net sinceMs) (horder : sinceMs ≤ nowMs)
    (hkept : net.Kept ⟨nowMs, .dhcp message recordedMs⟩) :
    Honoured (net.act ⟨nowMs, .dhcp message recordedMs⟩) nowMs := by
  refine ⟨h.orderly.grant, fun client ip atMs hat hpromised => ?_,
    fun client other ip ip' atMs hat hclient hother hsame => ?_⟩
  · by_cases hsender : message.sender = client
    · subst hsender
      obtain ⟨hrelease, hwhich⟩ := promised_own hpromised
      cases hterm : term message.messageType with
      | some found =>
        obtain ⟨replyType, seconds⟩ := found
        refine ⟨expiry nowMs seconds, reservedUntil_of_term hterm, ?_⟩
        have hanswer : ∃ grant, net.answer message nowMs = some grant ∧ grant.leaseIp = ip := by
          rcases hwhich with ⟨hack, -⟩ | hbefore
          · exact ⟨⟨5, ip⟩, hack, rfl⟩
          · have hnow := promised_antitone hat hbefore
            obtain ⟨untilMs, huntil, hholds⟩ := h.kept _ ip nowMs horder hnow
            exact ⟨⟨replyType, ip⟩,
              answer_renews h hterm hholds (hkept.promise hnow huntil), rfl⟩
        obtain ⟨grant, hgrant, rfl⟩ := hanswer
        exact holds_answer hterm hgrant
      | none =>
        have hbefore : promised message.sender ip atMs net.served = true := by
          rcases hwhich with ⟨hack, -⟩ | hbefore
          · cases (answer_of_none hterm).symm.trans hack
          · exact hbefore
        have hnow := promised_antitone hat hbefore
        obtain ⟨untilMs, huntil, hholds⟩ := h.kept _ ip nowMs horder hnow
        refine ⟨untilMs, (reservedUntil_of_other hterm hrelease).trans huntil, ?_⟩
        refine hholds.grant (hkept.promise hnow huntil) fun hacts => ?_
        exact absurd hacts (not_or.mpr ⟨not_not.mpr hterm, hrelease⟩)
    · have hbefore : promised client ip atMs net.served = true :=
        (promised_other hsender).symm.trans hpromised
      have hnow := promised_antitone hat hbefore
      obtain ⟨untilMs, huntil, hholds⟩ := h.kept client ip nowMs horder hnow
      refine ⟨untilMs, (reservedUntil_other hsender).trans huntil, ?_⟩
      refine hholds.grant (hkept.promise hnow huntil) fun hacts => ?_
      rw [message.leaseIdentity_request]
      exact (hkept client ip hnow).2 (Ne.symm hsender) (mem_of_term hacts)
  · -- Only the sender can be promised something new, and no other client looks like it then.
    have hfresh : ∀ {client : Sender} {ip}, client ≠ message.sender →
        promised client ip atMs (net.act ⟨nowMs, .dhcp message recordedMs⟩).served = true →
          promised client ip atMs net.served = true := fun hne hpromised =>
      (promised_other (Ne.symm hne)).symm.trans hpromised
    have hacted : ∀ {ip},
        promised message.sender ip atMs (net.act ⟨nowMs, .dhcp message recordedMs⟩).served = true →
          promised message.sender ip atMs net.served = true ∨
            message.messageType ∈ [1, 3, 7] := by
      intro ip hpromised
      rcases (promised_own hpromised).2 with ⟨hack, -⟩ | hbefore
      · refine .inr (mem_of_term (.inl fun hnone => ?_))
        cases (answer_of_none hnone).symm.trans hack
      · exact .inl hbefore
    by_cases hclient' : client = message.sender <;> by_cases hother' : other = message.sender
    · rw [hclient', hother']
    · subst hclient'
      have hbefore := hfresh hother' hother
      rcases hacted hclient with hsender | htype
      · exact h.apart _ _ _ _ atMs (horder.trans hat) hsender hbefore hsame
      · exact absurd hsame.symm ((hkept _ _ (promised_antitone hat hbefore)).2 hother' htype)
    · subst hother'
      have hbefore := hfresh hclient' hclient
      rcases hacted hother with hsender | htype
      · exact h.apart _ _ _ _ atMs (horder.trans hat) hbefore hsender hsame
      · exact absurd hsame ((hkept _ _ (promised_antitone hat hbefore)).2 hclient' htype)
    · exact h.apart _ _ _ _ atMs (horder.trans hat) (hfresh hclient' hclient)
        (hfresh hother' hother) hsame

end Message

theorem Honoured.later (h : Honoured net sinceMs) {net' : Network} {nowMs : Nat}
    (hleases : net'.leases = net.leases) (hserved : net'.served = net.served)
    (hnow : sinceMs ≤ nowMs) : Honoured net' nowMs where
  orderly := hleases ▸ h.orderly
  kept client ip atMs hat hpromised := by
    rw [hserved] at hpromised ⊢
    rw [hleases]
    exact h.kept client ip atMs (hnow.trans hat) hpromised
  apart client other ip ip' atMs hat hclient hother := by
    rw [hserved] at hclient hother
    exact h.apart client other ip ip' atMs (hnow.trans hat) hclient hother

theorem Honoured.act (h : Honoured net sinceMs) (horder : sinceMs ≤ action.nowMs)
    (hkept : net.Kept action) : Honoured (net.act action) action.nowMs := by
  obtain ⟨nowMs, event⟩ := action
  cases event with
  | dhcp message recordedMs => exact h.act_message horder hkept
  | register => exact h.later rfl rfl horder
  | replaceSession => exact h.later rfl rfl horder
  | elapse => exact h.later rfl rfl horder

theorem Honoured.exclusive (h : Honoured net sinceMs) (horder : sinceMs ≤ action.nowMs)
    (hkept : net.Kept action) : net.Exclusive action where
  granted message recordedMs hevent grant hgrant client hne := by
    obtain ⟨nowMs, event⟩ := action
    subst hevent
    by_contra hpromised
    rw [Bool.not_eq_false] at hpromised
    obtain ⟨untilMs, huntil, hholds⟩ := h.kept client _ nowMs horder hpromised
    have hsame := answer_unheld h hgrant hholds (hkept.promise hpromised huntil)
    refine (hkept client _ hpromised).2 hne (mem_of_term (.inl fun hnone => ?_)) hsame
    rw [answer_of_none hnone] at hgrant
    cases hgrant
  renewed message recordedMs hevent ip hpromised := by
    obtain ⟨nowMs, event⟩ := action
    subst hevent
    obtain ⟨untilMs, huntil, hholds⟩ := h.kept _ ip nowMs horder hpromised
    have hlt := hkept.promise hpromised huntil
    refine ⟨fun htype => ?_, fun htype => ?_⟩
    · exact answer_renews h (by rw [htype]; rfl) hholds hlt
    · exact answer_renews h (by rw [htype]; rfl) hholds hlt
  holders _ hat _ _ _ hclient hother := (h.act horder hkept).holders hat hclient hother
  table _ _ _ _ hlease hlease' hip := (h.act horder hkept).orderly.sole_slot hlease hlease' hip

theorem Honoured.step (h : Honoured net net.nowMs) (horder : net.InOrder action)
    (hkept : net.Kept action) : Honoured (net.act action) (net.act action).nowMs :=
  (h.act horder.1 hkept).later rfl rfl horder.2

/-- An address belongs to one client at a time, along every run in which the clients with a promise
do not let an offer run out. -/
theorem leases_exclusive (actions : List NetworkAction)
    (horder : Along Network.act InOrder {} actions) (hkept : Along Network.act Kept {} actions) :
    Along Network.act Exclusive {} actions := by
  have hstep : ∀ net action, Honoured net net.nowMs → InOrder net action ∧ Kept net action →
      Honoured (net.act action) (net.act action).nowMs ∧ Exclusive net action :=
    fun _ _ h hgood => ⟨h.step hgood.1 hgood.2, h.exclusive hgood.1.1 hgood.2⟩
  exact (horder.and hkept).of_invariant hstep honoured_empty

section Example

/-- A message of the client with this last byte in its hardware address. -/
def packet (last messageType : UInt8) (nowMs : Nat) : NetworkAction :=
  ⟨nowMs, .dhcp ⟨messageType, #v[0, 0, 0, 0, 0, last], []⟩ nowMs⟩

/-- The first client gets a lease, discovers once more and is gone for half a minute. -/
def lapsing : List NetworkAction := [packet 1 3 0, packet 1 1 1000, packet 2 3 31000]

theorem exists_of_promised {client : Sender} {ip : Ipv4} {atMs : Nat} {served : List Served}
    (h : promised client ip atMs served = true) :
    ∃ entry ∈ served, entry.sender = client ∧ entry.answer = some ⟨5, ip⟩ := by
  induction served with
  | nil => cases h
  | cons entry past ih =>
    by_cases hsender : entry.sender = client
    · subst hsender
      rcases (promised_own h).2 with ⟨hack, -⟩ | hbefore
      · exact ⟨entry, List.mem_cons_self, rfl, hack⟩
      · obtain ⟨other, hmem, hother⟩ := ih hbefore
        exact ⟨other, List.mem_cons_of_mem _ hmem, hother⟩
    · obtain ⟨other, hmem, hother⟩ := ih ((promised_other hsender).symm.trans h)
      exact ⟨other, List.mem_cons_of_mem _ hmem, hother⟩

theorem kept_dhcp_iff {message : DhcpMessage} {nowMs recordedMs : Nat} :
    net.Kept ⟨nowMs, .dhcp message recordedMs⟩ ↔
      ∀ entry ∈ net.served, ∀ grant ∈ entry.answer,
        promised entry.sender grant.leaseIp nowMs net.served = true →
          (∃ untilMs ∈ reservedUntil entry.sender net.served, nowMs < untilMs) ∧
            (entry.sender ≠ message.sender → message.messageType ∈ [1, 3, 7] →
              entry.sender.leaseIdentity ≠ message.sender.leaseIdentity) := by
  refine ⟨fun h entry _ grant _ => h entry.sender grant.leaseIp, fun h client ip hpromised => ?_⟩
  obtain ⟨entry, hmem, rfl, hanswer⟩ := exists_of_promised hpromised
  exact h entry hmem ⟨5, ip⟩ hanswer hpromised

instance (net : Network) : ∀ action, Decidable (net.Kept action)
  | ⟨_, .dhcp _ _⟩ => decidable_of_iff _ kept_dhcp_iff.symm
  | ⟨_, .register ..⟩ => .isTrue trivial
  | ⟨_, .replaceSession⟩ => .isTrue trivial
  | ⟨_, .elapse⟩ => .isTrue trivial

theorem leases_exclusive_renewed :
    Along Network.act Exclusive {} [packet 1 1 0, packet 1 3 10, packet 2 1 20, packet 1 3 5000] :=
  leases_exclusive _ (by decide +kernel) (by decide +kernel)

theorem lapsed_offer_loses_lease :
    Along Network.act InOrder {} lapsing ∧ ¬ Along Network.act Exclusive {} lapsing := by
  refine ⟨by decide +kernel, fun h => ?_⟩
  have hgranted := h.2.2.1.granted ⟨3, #v[0, 0, 0, 0, 0, 2], []⟩ 31000 rfl ⟨5, poolIp 0⟩
    (by decide +kernel) (.hardware #v[0, 0, 0, 0, 0, 1]) (by decide)
  revert hgranted
  decide +kernel

end Example

end Network

end Netherwick.Brainstem
