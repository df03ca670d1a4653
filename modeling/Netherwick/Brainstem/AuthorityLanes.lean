import Netherwick.Brainstem.Runtime.Lifecycle
import Netherwick.Brainstem.Session
import Netherwick.Lib.History

/-! # Two lanes over one lease

The ingress lane requests transitions and checks commands; the runtime lane acknowledges, expires
and replaces. A request keeps the new lease and session apart until it is acknowledged, but writes
the new expiry over that of the lease that is still active. -/

namespace Netherwick.Brainstem

open Netherwick.Lib

/-- A lease as it was asked for, on a clock that does not wrap. -/
structure LeaseGrant where
  leaseHash : UInt32
  sessionHash : UInt32
  requestedMs : Nat
  untilMs : Nat
  deriving DecidableEq

/-- The cells that both lanes share, with the lease that is held, the one that is asked for and the
time that the expiry cell stands for. -/
structure Lanes where
  st : Status := {}
  held : Option LeaseGrant := none
  asked : Option LeaseGrant := none
  writtenMs : Option Nat := none

inductive LaneAction
  | request (generation leaseHash sessionHash : UInt32) (uptimeUs : Nat) (ttlMs : UInt32)
  /-- A service authority first takes the control lease away. -/
  | barrier (generation : UInt32) (uptimeUs : Nat)
  | check (sessionId leaseId : Text) (nowMs : Nat)
  | acknowledge
  | expire (nowMs : UInt32)
  | loseHeartbeat
  | replaceSession (generation sessionHash : UInt32)

namespace Lanes

variable (lanes : Lanes)

def request (generation leaseHash sessionHash : UInt32) (uptimeUs : Nat) (ttlMs : UInt32) : Lanes :=
  let untilMs := uptimeUs / 1000 + ttlMs.toNat
  { lanes with
    st := lanes.st.installAuthority generation leaseHash sessionHash uptimeUs ttlMs
    asked := some ⟨leaseHash, sessionHash, uptimeUs / 1000, untilMs⟩
    writtenMs := some untilMs }

def barrier (generation : UInt32) (uptimeUs : Nat) : Lanes :=
  { lanes with
    st := lanes.st.requestAuthorityTransition generation 0 0 0
    asked := some ⟨0, 0, uptimeUs / 1000, 0⟩
    writtenMs := none }

/-- `poll_authority_transition`, as far as the cells are concerned. -/
def acknowledge : Lanes :=
  match lanes.st.pendingAuthorityTransition with
  | none => lanes
  | some generation =>
    { lanes with
      st := lanes.st.acknowledgeAuthorityTransition generation
      held := lanes.asked.filter (·.leaseHash != 0)
      asked := none }

def expire (nowMs : UInt32) : Lanes :=
  let st := (lanes.st.takeExpiredAuthority nowMs).2
  if (lanes.st.takeExpiredAuthority nowMs).1 then
    { lanes with st, held := none, writtenMs := none }
  else { lanes with st }

def act : LaneAction → Lanes
  | .request generation leaseHash sessionHash uptimeUs ttlMs =>
    lanes.request generation leaseHash sessionHash uptimeUs ttlMs
  | .barrier generation uptimeUs => lanes.barrier generation uptimeUs
  | .check _ _ _ => lanes
  | .acknowledge => lanes.acknowledge
  | .expire nowMs => lanes.expire nowMs
  | .loseHeartbeat =>
    { lanes with st := lanes.st.revokeAuthority, held := none, writtenMs := none }
  | .replaceSession generation sessionHash =>
    { lanes with
      st := lanes.st.acknowledgeSessionReplace generation sessionHash
      held := none, writtenMs := none }

/-- Is a command under these tokens let through? -/
def authorizes (sessionId leaseId : Text) (nowMs : Nat) : Bool :=
  lanes.st.activeAuthorityMatches (Session.tokenHash sessionId) (Session.tokenHash leaseId)
    (UInt32.ofNat nowMs)

/-- Only the owner of the lease that is held is let through, within the time that it was granted,
and while a transition is under way only if that time was not over when it was requested. -/
def OwnerOnly (action : LaneAction) : Prop :=
  match action with
  | .check sessionId leaseId nowMs =>
    lanes.authorizes sessionId leaseId nowMs = true →
      ∃ grant ∈ lanes.held, grant.leaseHash = Session.tokenHash leaseId ∧
        grant.sessionHash = Session.tokenHash sessionId ∧ nowMs < grant.untilMs ∧
        ∀ next ∈ lanes.asked, next.requestedMs < grant.untilMs
  | _ => True

/-- A transition is requested while no lease is held, or for no longer than the lease that is held
and is not over; and no check comes half the clock's range after the expiry it is held against. -/
def Unextended (action : LaneAction) : Prop :=
  match action with
  | .request _ _ _ uptimeUs ttlMs =>
    ∀ grant ∈ lanes.held,
      uptimeUs / 1000 < grant.untilMs ∧ uptimeUs / 1000 + ttlMs.toNat ≤ grant.untilMs
  | .check _ _ nowMs =>
    ∀ untilMs ∈ lanes.writtenMs, untilMs ≤ nowMs → (nowMs - untilMs) % 4294967296 < 2147483647
  | _ => True

instance (lanes : Lanes) : ∀ action, Decidable (lanes.OwnerOnly action)
  | .check sessionId leaseId nowMs => inferInstanceAs (Decidable
      (lanes.authorizes sessionId leaseId nowMs = true →
        ∃ grant ∈ lanes.held, grant.leaseHash = Session.tokenHash leaseId ∧
          grant.sessionHash = Session.tokenHash sessionId ∧ nowMs < grant.untilMs ∧
          ∀ next ∈ lanes.asked, next.requestedMs < grant.untilMs))
  | .request .. | .barrier .. | .acknowledge | .expire _ | .loseHeartbeat
  | .replaceSession .. => .isTrue trivial

instance (lanes : Lanes) : ∀ action, Decidable (lanes.Unextended action)
  | .request _ _ _ uptimeUs ttlMs => inferInstanceAs (Decidable
      (∀ grant ∈ lanes.held,
        uptimeUs / 1000 < grant.untilMs ∧ uptimeUs / 1000 + ttlMs.toNat ≤ grant.untilMs))
  | .check _ _ nowMs => inferInstanceAs (Decidable
      (∀ untilMs ∈ lanes.writtenMs, untilMs ≤ nowMs →
        (nowMs - untilMs) % 4294967296 < 2147483647))
  | .barrier .. | .acknowledge | .expire _ | .loseHeartbeat | .replaceSession .. => .isTrue trivial

/-- The cells show the lease that is held, and its time has not been extended. -/
structure Coherent (lanes : Lanes) : Prop where
  active : ∀ hash, hash ≠ 0 → lanes.st.authority.activeLeaseHash = hash →
    ∃ grant ∈ lanes.held, grant.leaseHash = hash ∧
      grant.sessionHash = lanes.st.authority.activeLeaseSessionHash
  cell : lanes.st.authority.activeLeaseExpiresMs = lanes.writtenMs.elim 0 UInt32.ofNat
  pending : ∀ next ∈ lanes.asked, next.leaseHash = lanes.st.authority.pendingLeaseHash ∧
    next.sessionHash = lanes.st.authority.pendingLeaseSessionHash ∧
      ∀ untilMs ∈ lanes.writtenMs, untilMs = next.untilMs
  covered : ∀ grant ∈ lanes.held, ∀ untilMs ∈ lanes.writtenMs, untilMs ≤ grant.untilMs
  inTime : ∀ grant ∈ lanes.held, ∀ next ∈ lanes.asked, lanes.writtenMs ≠ none →
    next.requestedMs < grant.untilMs
  answered : lanes.asked = none → lanes.st.pendingAuthorityTransition = none

theorem coherent_start : Coherent {} where
  active := by rintro _ hne rfl; exact absurd rfl hne
  cell := rfl
  pending := by rintro _ ⟨⟩
  covered := by rintro _ ⟨⟩
  inTime := by rintro _ ⟨⟩
  answered _ := rfl

variable {lanes}

theorem Coherent.dropped (h : Coherent lanes) {st : Status}
    (hactive : st.authority.activeLeaseHash = 0) (hcell : st.authority.activeLeaseExpiresMs = 0)
    (hlease : st.authority.pendingLeaseHash = lanes.st.authority.pendingLeaseHash)
    (hsession : st.authority.pendingLeaseSessionHash = lanes.st.authority.pendingLeaseSessionHash)
    (hpending : st.pendingAuthorityTransition = lanes.st.pendingAuthorityTransition) :
    Coherent { lanes with st, held := none, writtenMs := none } where
  active hash hne heq := absurd (heq.symm.trans hactive) hne
  cell := hcell
  pending next hnext := by
    obtain ⟨hl, hs, -⟩ := h.pending next hnext
    exact ⟨hl.trans hlease.symm, hs.trans hsession.symm, by rintro _ ⟨⟩⟩
  covered := by rintro _ ⟨⟩
  inTime := by rintro _ ⟨⟩
  answered hnone := hpending.trans (h.answered hnone)

theorem Coherent.revoked (h : Coherent lanes) :
    Coherent { lanes with st := lanes.st.revokeAuthority, held := none, writtenMs := none } := by
  have hcells : ∀ {st : Status}, lanes.st.revokeAuthority = st →
      st.authority = { lanes.st.authority with
        activeLeaseHash := 0, activeLeaseSessionHash := 0, activeLeaseExpiresMs := 0 } := by
    rintro _ rfl
    unfold Status.revokeAuthority
    dsimp only
    split <;> rfl
  have hsame := hcells rfl
  exact h.dropped (by rw [hsame]) (by rw [hsame]) (by rw [hsame]) (by rw [hsame])
    (by simp only [Status.pendingAuthorityTransition, hsame])

theorem Coherent.request (h : Coherent lanes) {generation leaseHash sessionHash : UInt32}
    {uptimeUs : Nat} {ttlMs : UInt32}
    (hun : lanes.Unextended (.request generation leaseHash sessionHash uptimeUs ttlMs)) :
    Coherent (lanes.request generation leaseHash sessionHash uptimeUs ttlMs) where
  active := h.active
  cell := by
    show UInt32.ofNat (uptimeUs / 1000) + ttlMs = UInt32.ofNat (uptimeUs / 1000 + ttlMs.toNat)
    rw [UInt32.ofNat_add, UInt32.ofNat_toNat]
  pending next hnext := by
    cases hnext
    exact ⟨rfl, rfl, fun untilMs huntil => (Option.some.inj huntil).symm⟩
  covered grant hgrant untilMs huntil := by
    cases huntil
    exact (hun grant hgrant).2
  inTime grant hgrant next hnext _ := by
    cases hnext
    exact (hun grant hgrant).1
  answered hnone := by cases hnone

theorem Coherent.barrier (h : Coherent lanes) {generation : UInt32} {uptimeUs : Nat} :
    Coherent (lanes.barrier generation uptimeUs) where
  active := h.active
  cell := rfl
  pending next hnext := by
    cases hnext
    exact ⟨rfl, rfl, by rintro _ ⟨⟩⟩
  covered grant hgrant := by rintro _ ⟨⟩
  inTime _ _ _ _ hwritten := absurd rfl hwritten
  answered hnone := by cases hnone

theorem Coherent.acknowledge (h : Coherent lanes) : Coherent lanes.acknowledge := by
  unfold Lanes.acknowledge
  split
  · exact h
  · rename_i generation hpending
    obtain ⟨next, hnext⟩ : ∃ next, lanes.asked = some next := by
      by_contra hnone
      rw [h.answered (Option.eq_none_iff_forall_ne_some.mpr fun next hnext => hnone ⟨next, hnext⟩)]
        at hpending
      cases hpending
    obtain ⟨hlease, hsession, hwritten⟩ := h.pending next hnext
    have hgeneration : lanes.st.authority.request = generation := by
      unfold Status.pendingAuthorityTransition at hpending
      dsimp only at hpending
      split at hpending
      · exact Option.some.inj hpending
      · cases hpending
    refine ⟨fun hash hne hactive => ?_, h.cell, by rintro _ ⟨⟩, fun grant hgrant untilMs huntil => ?_,
      by rintro _ _ _ ⟨⟩, fun _ => ?_⟩
    · have hhash : next.leaseHash = hash := hlease.trans hactive
      refine ⟨next, ?_, hhash, hsession⟩
      exact Option.filter_eq_some_iff.mpr ⟨hnext, bne_iff_ne.mpr (hhash ▸ hne)⟩
    · obtain ⟨hasked, -⟩ := Option.filter_eq_some_iff.mp (hgrant : lanes.asked.filter _ = some grant)
      cases hasked.symm.trans hnext
      exact (hwritten untilMs huntil).le
    · simp [Status.pendingAuthorityTransition, Status.acknowledgeAuthorityTransition,
        Status.recordPublicEvent, Status.revokeServiceAuthority, hgeneration]

theorem Coherent.expire (h : Coherent lanes) (nowMs : UInt32) : Coherent (lanes.expire nowMs) := by
  unfold Lanes.expire Status.takeExpiredAuthority
  split
  · exact h.revoked
  · exact h

theorem Coherent.replaceSession (h : Coherent lanes) (generation sessionHash : UInt32) :
    Coherent (lanes.act (.replaceSession generation sessionHash)) := by
  have hcells : ∀ {st : Status}, lanes.st.acknowledgeSessionReplace generation sessionHash = st →
      st.authority = { lanes.st.authority with
        activeLeaseHash := 0, activeLeaseSessionHash := 0, activeLeaseExpiresMs := 0
        activeServiceLeaseHash := 0, activeServiceSessionHash := 0
        activeServiceLeaseExpiresMs := 0, activeServiceScope := 0 } := by
    rintro _ rfl
    unfold Status.acknowledgeSessionReplace
    dsimp only
    split <;> rfl
  have hsame := hcells rfl
  exact h.dropped (by rw [hsame]) (by rw [hsame]) (by rw [hsame]) (by rw [hsame])
    (by simp only [Status.pendingAuthorityTransition, hsame])

theorem Coherent.act (h : Coherent lanes) {action : LaneAction} (hun : lanes.Unextended action) :
    Coherent (lanes.act action) := by
  cases action with
  | request => exact h.request hun
  | barrier => exact h.barrier
  | check => exact h
  | acknowledge => exact h.acknowledge
  | expire nowMs => exact h.expire nowMs
  | loseHeartbeat => exact h.revoked
  | replaceSession generation sessionHash => exact h.replaceSession generation sessionHash

theorem Coherent.ownerOnly (h : Coherent lanes) {action : LaneAction}
    (hun : lanes.Unextended action) : lanes.OwnerOnly action := by
  cases action with
  | check sessionId leaseId nowMs =>
    intro hauthorized
    simp only [authorizes, Status.activeAuthorityMatches, Status.authorityExpired,
      Bool.and_eq_true, Bool.not_eq_true', Bool.or_eq_false_iff, decide_eq_true_eq,
      decide_eq_false_iff_not] at hauthorized
    obtain ⟨⟨⟨hset, hopen⟩, hlease⟩, hsession⟩ := hauthorized
    obtain ⟨grant, hgrant, hhash, howner⟩ := h.active _ (Session.tokenHash_ne_zero leaseId) hlease
    obtain ⟨untilMs, huntil⟩ : ∃ untilMs, lanes.writtenMs = some untilMs := by
      cases hwritten : lanes.writtenMs with
      | none => exact absurd (by rw [h.cell, hwritten]; rfl) hset
      | some untilMs => exact ⟨untilMs, rfl⟩
    have hlt : nowMs < untilMs := by
      by_contra hover
      have hnear := hun untilMs huntil (Nat.le_of_not_lt hover)
      have hreached : timeReached (UInt32.ofNat nowMs) (UInt32.ofNat untilMs) = true := by
        rw [timeReached_iff, UInt32.toNat_ofNat', UInt32.toNat_ofNat']
        omega
      rw [h.cell, huntil] at hopen
      cases hopen.symm.trans hreached
    exact ⟨grant, hgrant, hhash, howner.trans hsession,
      hlt.trans_le (h.covered grant hgrant untilMs huntil),
      fun next hnext => h.inTime grant hgrant next hnext (huntil ▸ Option.some_ne_none untilMs)⟩
  | request | barrier | acknowledge | expire | loseHeartbeat | replaceSession => trivial

/-- Nobody but the owner of a lease in its own time is let through, in every interleaving whose
requests do not outlast the lease that is held. -/
theorem owner_only (actions : List LaneAction) (hun : Along Lanes.act Unextended {} actions) :
    Along Lanes.act OwnerOnly {} actions := by
  have hstep : ∀ lanes action, Coherent lanes → Unextended lanes action →
      Coherent (lanes.act action) ∧ OwnerOnly lanes action :=
    fun _ _ h hun => ⟨h.act hun, h.ownerOnly hun⟩
  exact hun.of_invariant hstep coherent_start

section Example

/-- Session "s" gets lease "a" for so long, and session "t" asks for lease "b" at that time. -/
def handover (ttlMs : UInt32) (nowMs : Nat) : List LaneAction :=
  [.request 1 (Session.tokenHash (utf8 "a")) (Session.tokenHash (utf8 "s")) 0 ttlMs, .acknowledge,
    .request 2 (Session.tokenHash (utf8 "b")) (Session.tokenHash (utf8 "t")) (nowMs * 1000) 2000]

theorem owner_only_handover : Along Lanes.act OwnerOnly {} (handover 60000 1000 ++
    [.check (utf8 "s") (utf8 "a") 1500, .acknowledge, .check (utf8 "t") (utf8 "b") 1600,
      .expire 3100]) :=
  owner_only _ (by decide +kernel)

/-- A lease of 250 ms comes back to life when another session asks for one five seconds later. -/
theorem expired_lease_revived :
    ¬ Along Lanes.act OwnerOnly {} (handover 250 5000 ++ [.check (utf8 "s") (utf8 "a") 5001]) := by
  decide +kernel

end Example

end Lanes

end Netherwick.Brainstem
