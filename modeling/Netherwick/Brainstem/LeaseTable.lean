import Netherwick.Brainstem.Network

/-! # The lease table

What each operation does to the entry of its client and that it leaves the other entries alone. -/

namespace Netherwick.Brainstem

open Netherwick.Lib

/-- Every client has one slot, and every slot serves the address of its position. -/
structure DhcpLeaseState.Orderly (leases : DhcpLeaseState) : Prop where
  distinct : Slots.Distinct (fun lease : DhcpLease => lease.client.leaseIdentity) leases
  pooled : ∀ slot lease, leases slot = some lease → lease.ip = poolIp slot

/-- A client's entry. -/
def DhcpLeaseState.Holds (leases : DhcpLeaseState) (identity : List UInt8) (ip : Ipv4)
    (expiresAtMs : Nat) : Prop :=
  ∃ slot lease, leases slot = some lease ∧ lease.client.leaseIdentity = identity ∧ lease.ip = ip ∧
    lease.expiresAtMs = expiresAtMs

namespace DhcpLeaseState

variable {leases : DhcpLeaseState} {isMotherbrain : List UInt8 → Bool} {client : DhcpClient}
  {nowMs seconds expiresAtMs : Nat} {ip : Ipv4} {identity : List UInt8}

theorem eq_iff (a b : DhcpClient) : a.eq b = true ↔ a.leaseIdentity = b.leaseIdentity := by
  simp [DhcpClient.eq]

theorem orderly_empty : Orderly Slots.empty :=
  ⟨Slots.distinct_empty, by rintro _ _ ⟨⟩⟩

theorem Orderly.sole_slot (h : leases.Orderly) {i j : Fin 8} {a b : DhcpLease}
    (ha : leases i = some a) (hb : leases j = some b) (hip : a.ip = b.ip) : i = j :=
  poolIp_injective ((h.pooled i a ha).symm.trans (hip.trans (h.pooled j b hb)))

theorem Orderly.holds_ip (h : leases.Orderly) {a b : List UInt8} {u v : Nat}
    (ha : leases.Holds a ip u) (hb : leases.Holds b ip v) : a = b := by
  obtain ⟨i, l, hl, rfl, rfl, -⟩ := ha
  obtain ⟨j, m, hm, rfl, hip, -⟩ := hb
  obtain rfl := h.sole_slot hl hm hip.symm
  cases hl.symm.trans hm
  rfl

theorem Orderly.clearExpired (h : leases.Orderly) : (leases.clearExpired nowMs).Orderly where
  distinct := h.distinct.mono fun _ lease hlease =>
    ⟨lease, (Slots.retain_eq_some.mp hlease).1, rfl⟩
  pooled slot lease hlease := h.pooled slot lease (Slots.retain_eq_some.mp hlease).1

theorem Holds.clearExpired (h : leases.Holds identity ip expiresAtMs) (hnow : nowMs < expiresAtMs) :
    (leases.clearExpired nowMs).Holds identity ip expiresAtMs := by
  obtain ⟨slot, lease, hlease, hidentity, hip, rfl⟩ := h
  exact ⟨slot, lease, Slots.retain_eq_some.mpr ⟨hlease, decide_eq_true hnow⟩, hidentity, hip, rfl⟩

theorem vacancy_eq_some {slot : Fin 8} (h : leases.vacancy isMotherbrain client = some slot) :
    leases slot = none := by
  rw [vacancy, Option.or_eq_some_iff] at h
  rcases h with h | ⟨-, h⟩
  · split at h
    · rename_i hfree
      cases h
      simpa using (Bool.and_eq_true_iff.mp hfree).2
    · cases h
  · exact Slots.free_eq_some h

theorem reserve_cases (leases : DhcpLeaseState) (isMotherbrain : List UInt8 → Bool)
    (client : DhcpClient) (nowMs seconds : Nat) :
    (∃ slot lease, leases slot = some lease ∧ lease.client.leaseIdentity = client.leaseIdentity ∧
      leases.reserve isMotherbrain client nowMs seconds =
        (some lease.ip, leases.put slot
          (some { lease with expiresAtMs := expiry nowMs seconds }))) ∨
    (∀ slot lease, leases slot = some lease →
      lease.client.leaseIdentity ≠ client.leaseIdentity) ∧
      (leases.vacancy isMotherbrain client = none ∧
          leases.reserve isMotherbrain client nowMs seconds = (none, leases) ∨
        ∃ slot, leases slot = none ∧ leases.reserve isMotherbrain client nowMs seconds =
          (some (poolIp slot), leases.put slot
            (some ⟨client, poolIp slot, expiry nowMs seconds⟩))) := by
  cases hfind : leases.find (·.client.eq client) with
  | some found =>
    obtain ⟨slot, lease⟩ := found
    obtain ⟨hlease, heq⟩ := Slots.find_eq_some hfind
    exact .inl ⟨slot, lease, hlease, (eq_iff _ _).mp heq, by simp [reserve, hfind]⟩
  | none =>
    have hnone := Slots.find_eq_none.mp hfind
    refine .inr ⟨fun slot lease hlease hsame => ?_, ?_⟩
    · have := hnone slot lease hlease
      rw [(eq_iff _ _).mpr hsame] at this
      cases this
    · cases hvacancy : leases.vacancy isMotherbrain client with
      | none => exact .inl ⟨rfl, by simp [reserve, hfind, hvacancy]⟩
      | some slot => exact .inr ⟨slot, vacancy_eq_some hvacancy, by simp [reserve, hfind, hvacancy]⟩

theorem Orderly.reserve (h : leases.Orderly) :
    (leases.reserve isMotherbrain client nowMs seconds).2.Orderly := by
  rcases reserve_cases leases isMotherbrain client nowMs seconds with
    ⟨slot, lease, hlease, hsame, heq⟩ | ⟨hnew, ⟨-, heq⟩ | ⟨slot, hfree, heq⟩⟩
  · rw [heq]
    refine ⟨h.distinct.put fun j other hother hkey => h.distinct j slot other lease hother hlease hkey,
      fun j other hother => ?_⟩
    rcases Slots.put_eq_some hother with ⟨rfl, hput⟩ | ⟨-, hold⟩
    · cases hput
      exact h.pooled j lease hlease
    · exact h.pooled j other hold
  · rwa [heq]
  · rw [heq]
    refine ⟨h.distinct.put fun j other hother hkey => absurd hkey (hnew j other hother),
      fun j other hother => ?_⟩
    rcases Slots.put_eq_some hother with ⟨rfl, hput⟩ | ⟨-, hold⟩
    · cases hput
      rfl
    · exact h.pooled j other hold

theorem Holds.reserve (h : leases.Holds identity ip expiresAtMs)
    (hother : identity ≠ client.leaseIdentity) :
    (leases.reserve isMotherbrain client nowMs seconds).2.Holds identity ip expiresAtMs := by
  obtain ⟨slot, lease, hlease, rfl, hip, hexp⟩ := h
  rcases reserve_cases leases isMotherbrain client nowMs seconds with
    ⟨own, mine, hmine, hsame, heq⟩ | ⟨-, ⟨-, heq⟩ | ⟨free, hfree, heq⟩⟩
  · have hne : slot ≠ own := by
      rintro rfl
      cases hlease.symm.trans hmine
      exact hother hsame
    rw [heq]
    exact ⟨slot, lease, (Slots.put_of_ne hne _ _).trans hlease, rfl, hip, hexp⟩
  · rw [heq]
    exact ⟨slot, lease, hlease, rfl, hip, hexp⟩
  · have hne : slot ≠ free := by
      rintro rfl
      cases hlease.symm.trans hfree
    rw [heq]
    exact ⟨slot, lease, (Slots.put_of_ne hne _ _).trans hlease, rfl, hip, hexp⟩

theorem holds_reserve (h : (leases.reserve isMotherbrain client nowMs seconds).1 = some ip) :
    (leases.reserve isMotherbrain client nowMs seconds).2.Holds client.leaseIdentity ip
      (expiry nowMs seconds) := by
  rcases reserve_cases leases isMotherbrain client nowMs seconds with
    ⟨slot, lease, hlease, hsame, heq⟩ | ⟨-, ⟨-, heq⟩ | ⟨slot, hfree, heq⟩⟩
  · rw [heq] at h ⊢
    cases h
    exact ⟨slot, _, Slots.put_self _ _ _, hsame, rfl, rfl⟩
  · rw [heq] at h
    cases h
  · rw [heq] at h ⊢
    cases h
    exact ⟨slot, _, Slots.put_self _ _ _, rfl, rfl, rfl⟩

theorem Orderly.reserve_renews (horderly : leases.Orderly)
    (h : leases.Holds client.leaseIdentity ip expiresAtMs) :
    (leases.reserve isMotherbrain client nowMs seconds).1 = some ip := by
  obtain ⟨slot, lease, hlease, hsame, rfl, -⟩ := h
  rcases reserve_cases leases isMotherbrain client nowMs seconds with
    ⟨own, mine, hmine, hmine', heq⟩ | ⟨hnew, -⟩
  · obtain rfl := horderly.distinct own slot mine lease hmine hlease (hmine'.trans hsame.symm)
    cases hlease.symm.trans hmine
    rw [heq]
  · exact absurd hsame (hnew slot lease hlease)

theorem Orderly.reserve_unheld (horderly : leases.Orderly)
    (h : (leases.reserve isMotherbrain client nowMs seconds).1 = some ip)
    (hholds : leases.Holds identity ip expiresAtMs) : identity = client.leaseIdentity := by
  obtain ⟨slot, lease, hlease, rfl, rfl, -⟩ := hholds
  rcases reserve_cases leases isMotherbrain client nowMs seconds with
    ⟨own, mine, hmine, hsame, heq⟩ | ⟨-, ⟨-, heq⟩ | ⟨free, hfree, heq⟩⟩
  · rw [heq] at h
    obtain rfl := horderly.sole_slot hmine hlease (Option.some.inj h)
    cases hlease.symm.trans hmine
    exact hsame
  · rw [heq] at h
    cases h
  · rw [heq] at h
    have hip : poolIp free = poolIp slot := (Option.some.inj h).trans (horderly.pooled slot lease hlease)
    obtain rfl := poolIp_injective hip
    cases hlease.symm.trans hfree

theorem Orderly.release (h : leases.Orderly) : (leases.release client).Orderly := by
  rw [DhcpLeaseState.release]
  split
  · rename_i own _ _
    have hsub : ∀ j lease, (leases.put own none) j = some lease → leases j = some lease := by
      intro j lease hlease
      rcases Slots.put_eq_some hlease with ⟨-, hput⟩ | ⟨-, hold⟩
      · cases hput
      · exact hold
    exact ⟨h.distinct.mono fun j lease hlease => ⟨lease, hsub j lease hlease, rfl⟩,
      fun j lease hlease => h.pooled j lease (hsub j lease hlease)⟩
  · exact h

theorem Holds.release (h : leases.Holds identity ip expiresAtMs)
    (hother : identity ≠ client.leaseIdentity) :
    (leases.release client).Holds identity ip expiresAtMs := by
  obtain ⟨slot, lease, hlease, rfl, hip, hexp⟩ := h
  rw [DhcpLeaseState.release]
  split
  · rename_i own mine hfind
    obtain ⟨hmine, hsame⟩ := Slots.find_eq_some hfind
    have hne : slot ≠ own := by
      rintro rfl
      cases hlease.symm.trans hmine
      exact hother ((eq_iff _ _).mp hsame)
    exact ⟨slot, lease, (Slots.put_of_ne hne _ _).trans hlease, rfl, hip, hexp⟩
  · exact ⟨slot, lease, hlease, rfl, hip, hexp⟩

/-- The type of the answer to a message, and for how many seconds its client is to keep a slot. -/
def term (messageType : UInt8) : Option (UInt8 × Nat) :=
  if messageType = 1 then some (2, dhcpOfferHoldSeconds)
  else if messageType = 3 then some (5, dhcpLeaseSeconds)
  else none

variable {request : DhcpRequest} {replyType : UInt8}

theorem grant_of_term (h : term request.messageType = some (replyType, seconds)) :
    leases.grant isMotherbrain request nowMs =
      (((leases.clearExpired nowMs).reserve isMotherbrain request.client nowMs seconds).1.map
          (⟨replyType, ·⟩),
        ((leases.clearExpired nowMs).reserve isMotherbrain request.client nowMs seconds).2) := by
  simp only [term] at h
  split at h
  · rename_i htype
    cases h
    simp [grant, htype]
  · rename_i hnot
    split at h
    · rename_i htype
      cases h
      simp [grant, htype]
    · cases h

theorem grant_of_release (h : request.messageType = 7) :
    leases.grant isMotherbrain request nowMs =
      (none, (leases.clearExpired nowMs).release request.client) := by
  simp [grant, h]

theorem grant_of_other (h : term request.messageType = none) (hrelease : request.messageType ≠ 7) :
    leases.grant isMotherbrain request nowMs = (none, leases.clearExpired nowMs) := by
  rw [term] at h
  split at h
  · cases h
  · rename_i hone
    split at h
    · cases h
    · rename_i hthree
      simp [grant, hone, hthree, hrelease]

theorem term_release : term 7 = none := rfl

theorem Orderly.grant (h : leases.Orderly) :
    (leases.grant isMotherbrain request nowMs).2.Orderly := by
  cases hterm : term request.messageType with
  | some found =>
    rw [grant_of_term hterm]
    exact h.clearExpired.reserve
  | none =>
    by_cases hrelease : request.messageType = 7
    · rw [grant_of_release hrelease]
      exact h.clearExpired.release
    · rw [grant_of_other hterm hrelease]
      exact h.clearExpired

theorem Holds.grant (h : leases.Holds identity ip expiresAtMs) (hnow : nowMs < expiresAtMs)
    (hother : term request.messageType ≠ none ∨ request.messageType = 7 →
      identity ≠ request.client.leaseIdentity) :
    (leases.grant isMotherbrain request nowMs).2.Holds identity ip expiresAtMs := by
  cases hterm : term request.messageType with
  | some found =>
    rw [grant_of_term hterm]
    exact (h.clearExpired hnow).reserve (hother (.inl (hterm ▸ Option.some_ne_none found)))
  | none =>
    by_cases hrelease : request.messageType = 7
    · rw [grant_of_release hrelease]
      exact (h.clearExpired hnow).release (hother (.inr hrelease))
    · rw [grant_of_other hterm hrelease]
      exact h.clearExpired hnow

end DhcpLeaseState

end Netherwick.Brainstem
