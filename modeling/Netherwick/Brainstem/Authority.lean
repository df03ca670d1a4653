import Netherwick.Lib.Clock
import Netherwick.Brainstem.Status

/-! # Sessions and leases

The ingress lane requests a session or an authority change and the runtime lane acknowledges it
once the body is stopped. A lease expiry is a deadline on the runtime's own clock. -/

namespace Netherwick.Brainstem

open Netherwick.Lib

namespace Status

variable (st : Status)

section Session

def requestSessionReplace (generation sessionHash peerDeviceHash peerBootHash : UInt32) : Status :=
  { st with session := { st.session with
      pendingSessionHash := sessionHash, pendingPeerDeviceHash := peerDeviceHash
      pendingPeerBootHash := peerBootHash, replaceRequest := max generation 1 } }

def pendingSessionReplace : Option UInt32 :=
  let request := st.session.replaceRequest
  if request != 0 && request != st.session.replaceAck then some request else none

end Session

section Authority

def requestAuthorityTransition (generation leaseHash sessionHash expiresMs : UInt32) : Status :=
  { st with authority := { st.authority with
      pendingLeaseHash := leaseHash, pendingLeaseSessionHash := sessionHash
      activeLeaseExpiresMs := expiresMs, request := max generation 1 } }

/-- The lease duration that every handler asks for. -/
def leaseTtlMs (requestedMs : UInt32) : UInt32 := max 250 (min 60000 requestedMs)

/-- `install_authority`: the expiry is stamped with the ingress lane's own millisecond clock. -/
def installAuthority (generation leaseHash sessionHash : UInt32) (uptimeUs : Nat)
    (ttlMs : UInt32) : Status :=
  st.requestAuthorityTransition generation leaseHash sessionHash
    (UInt32.ofNat (uptimeUs / 1000) + ttlMs)

def pendingAuthorityTransition : Option UInt32 :=
  let request := st.authority.request
  if request != 0 && request != st.authority.ack then some request else none

def authorityExpired (nowMs : UInt32) : Bool :=
  st.authority.activeLeaseExpiresMs = 0 || timeReached nowMs st.authority.activeLeaseExpiresMs

def hasActiveAuthority (nowMs : UInt32) : Bool :=
  st.authority.activeLeaseHash != 0 && !st.authorityExpired nowMs

def activeAuthorityMatches (sessionHash leaseHash nowMs : UInt32) : Bool :=
  !st.authorityExpired nowMs && st.authority.activeLeaseHash = leaseHash
    && st.authority.activeLeaseSessionHash = sessionHash

def pendingAuthorityContinuesOwner (nowMs : UInt32) : Bool :=
  !st.authorityExpired nowMs && st.authority.activeLeaseSessionHash != 0
    && st.authority.activeLeaseSessionHash = st.authority.pendingLeaseSessionHash

def revokeServiceAuthority : Status :=
  { st with authority := { st.authority with
      activeServiceLeaseHash := 0, activeServiceSessionHash := 0
      activeServiceLeaseExpiresMs := 0, activeServiceScope := 0 } }

def installServiceAuthority (sessionHash leaseHash expiresMs : UInt32) (scope : UInt8) : Status :=
  { st with authority := { st.authority with
      activeServiceSessionHash := sessionHash, activeServiceLeaseHash := leaseHash
      activeServiceLeaseExpiresMs := expiresMs, activeServiceScope := scope } }

def activeServiceAuthorityMatches (sessionHash leaseHash nowMs : UInt32) (scope : UInt8) : Bool :=
  let deadline := st.authority.activeServiceLeaseExpiresMs
  deadline != 0 && !timeReached nowMs deadline
    && st.authority.activeServiceSessionHash = sessionHash
    && st.authority.activeServiceLeaseHash = leaseHash
    && st.authority.activeServiceScope = scope

def acknowledgeAuthorityTransition (generation : UInt32) : Status :=
  let st := st.revokeServiceAuthority
  { st with authority := { st.authority with
      activeLeaseHash := st.authority.pendingLeaseHash
      activeLeaseSessionHash := st.authority.pendingLeaseSessionHash
      ack := generation } }
    |>.recordPublicEvent .authorityChanged generation st.authority.pendingLeaseSessionHash
        st.authority.pendingLeaseHash

def revokeAuthority : Status :=
  let previous := st.authority.activeLeaseHash
  let st := { st with authority := { st.authority with
      activeLeaseHash := 0, activeLeaseSessionHash := 0, activeLeaseExpiresMs := 0 } }
  if previous != 0 then st.recordPublicEvent .authorityChanged 0 previous 0 else st

/-- `take_expired_authority`: revoke an expired lease and say so. -/
def takeExpiredAuthority (nowMs : UInt32) : Bool × Status :=
  if st.authority.activeLeaseHash != 0 && st.authorityExpired nowMs then
    (true, st.revokeAuthority)
  else (false, st)

end Authority

/-- `acknowledge_session_replace`: the new identity is published and every lease is dropped. -/
def acknowledgeSessionReplace (generation sessionHash : UInt32) : Status :=
  let s := st.session
  let st := { st with
    session := { s with
      activeSessionHash := sessionHash, activeSessionGeneration := generation
      activePeerDeviceHash := s.pendingPeerDeviceHash
      activePeerBootHash := s.pendingPeerBootHash, replaceAck := generation }
    authority := { st.authority with
      activeLeaseHash := 0, activeLeaseSessionHash := 0, activeLeaseExpiresMs := 0 } }
  let st := st.revokeServiceAuthority.recordPublicEvent
    (if s.activeSessionHash = 0 then .sessionOpened else .sessionReplaced)
    generation s.activeSessionHash sessionHash
  if s.activePeerDeviceHash = s.pendingPeerDeviceHash && s.activePeerBootHash != 0
      && s.activePeerBootHash != s.pendingPeerBootHash then
    st.recordPublicEvent .peerRebootDetected s.activePeerBootHash s.pendingPeerBootHash 0
  else st

end Status

end Netherwick.Brainstem
