import Netherwick.Lib.Clock
import Netherwick.Lib.Slots
import Netherwick.Lib.Bytes
import Mathlib.Data.List.FinRange

/-! # The network registry

Eight cells remember which client was granted which address until when, in 32-bit milliseconds. The
motherbrain registers its name on one of them. -/

namespace Netherwick.Brainstem

open Netherwick.Lib

/-- An address, as the value of its bytes in network order. -/
abbrev Ipv4 : Type := UInt32

def dhcpLeaseSeconds : Nat := 3600

/-- One cell of the lease table. The id zero marks a cell that was never written. -/
structure LeaseCell where
  id : UInt32 := 0
  ip : Ipv4 := 0
  expiryMs : UInt32 := 0
  deriving DecidableEq, Repr

def LeaseCell.active (nowMs : UInt32) (cell : LeaseCell) : Bool :=
  cell.id != 0 && !timeReached nowMs cell.expiryMs

structure NetworkRegistry where
  leases : Fin 8 → LeaseCell := fun _ => {}
  motherbrainIp : Ipv4 := 0
  motherbrainExpiryMs : UInt32 := 0
  registrationGeneration : UInt32 := 0
  motherbrainLeaseId : UInt32 := 0
  motherbrainDeviceHash : UInt32 := 0
  motherbrainBootHash : UInt32 := 0

namespace NetworkRegistry

def identityHash (identity : List UInt8) : UInt32 := fnvToken identity

/-- The lower-case digit of a value below sixteen. -/
def hexDigit (nibble : UInt8) : UInt8 := if nibble < 10 then 0x30 + nibble else 0x57 + nibble

def hex (bytes : List UInt8) : List UInt8 :=
  bytes.flatMap fun byte : UInt8 => [hexDigit (byte >>> 4), hexDigit (byte &&& 0x0f)]

/-- The hash of the hexadecimal text of an identity, which is how a client spells its own. -/
def dhcpIdentityHash (identity : List UInt8) : UInt32 := fnvToken (hex identity)

variable (self : NetworkRegistry)

def position (p : LeaseCell → Bool) : Option (Fin 8) :=
  (List.finRange 8).find? fun i => p (self.leases i)

/-- The cell that `recordLease` writes. -/
def recordSlot (id : UInt32) : Fin 8 :=
  ((self.position (·.id = id)).or (self.position (·.id = 0))).getD (Fin.ofNat 8 id.toNat)

def recordLeaseHash (id : UInt32) (ip : Ipv4) (expiryMs : UInt32) : NetworkRegistry :=
  let slot := self.recordSlot id
  { self with leases := fun i => if i = slot then ⟨id, ip, expiryMs⟩ else self.leases i }

def recordLease (identity : List UInt8) (ip : Ipv4) (expiryMs : UInt32) : NetworkRegistry :=
  self.recordLeaseHash (dhcpIdentityHash identity) ip expiryMs

def leaseIdentityIsMotherbrain (identity : List UInt8) : Bool :=
  self.motherbrainLeaseId != 0 && self.motherbrainLeaseId == dhcpIdentityHash identity

/-- The lifetime of a registration, in seconds: no longer than the lease, but at least one. -/
def registrationTtl (requestedTtlSeconds leaseExpiry nowMs : UInt32) : UInt32 :=
  max (min requestedTtlSeconds ((leaseExpiry - nowMs) / 1000)) 1

def sameRegistration (id : UInt32) (ip : Ipv4) (peerDeviceHash peerBootHash nowMs : UInt32) : Bool :=
  self.motherbrainIp == ip && self.motherbrainLeaseId == id &&
    self.motherbrainDeviceHash == peerDeviceHash && self.motherbrainBootHash == peerBootHash &&
    !timeReached nowMs self.motherbrainExpiryMs

def registerMotherbrain (identity : List UInt8) (ip : Ipv4)
    (peerDeviceHash peerBootHash requestedTtlSeconds nowMs : UInt32) :
    Option (UInt32 × UInt32) × NetworkRegistry :=
  let id := identityHash identity
  match self.position (·.id = id) with
  | none => (none, self)
  | some slot =>
    let leaseExpiry := (self.leases slot).expiryMs
    if (self.leases slot).ip ≠ ip then (none, self)
    else if timeReached nowMs leaseExpiry then (none, self)
    else
      let ttl := registrationTtl requestedTtlSeconds leaseExpiry nowMs
      let same := self.sameRegistration id ip peerDeviceHash peerBootHash nowMs
      let generation := max (if same then self.registrationGeneration
        else self.registrationGeneration + 1) 1
      (some (ttl, generation),
        { self with
          registrationGeneration :=
            if same then self.registrationGeneration else self.registrationGeneration + 1
          motherbrainIp := ip
          motherbrainLeaseId := id
          motherbrainDeviceHash := peerDeviceHash
          motherbrainBootHash := peerBootHash
          motherbrainExpiryMs := nowMs + ttl * 1000 })

def resolveMotherbrain (nowMs : UInt32) : Option Ipv4 :=
  if self.motherbrainIp = 0 || timeReached nowMs self.motherbrainExpiryMs then none
  else some self.motherbrainIp

def clearMotherbrainRegistration : NetworkRegistry :=
  { self with
    motherbrainIp := 0
    motherbrainExpiryMs := 0
    motherbrainLeaseId := 0
    motherbrainDeviceHash := 0
    motherbrainBootHash := 0 }

structure Diagnostics where
  activeLeases : Nat
  motherbrainIp : Option Ipv4
  registrationGeneration : UInt32

def diagnostics (nowMs : UInt32) : Diagnostics where
  activeLeases := (List.finRange 8).countP fun i => (self.leases i).active nowMs
  motherbrainIp := self.resolveMotherbrain nowMs
  registrationGeneration := self.registrationGeneration

section Lemmas

variable {self} {p : LeaseCell → Bool} {slot : Fin 8} {id : UInt32}

theorem position_eq_some (h : self.position p = some slot) : p (self.leases slot) = true :=
  List.find?_some (p := fun i => p (self.leases i)) h

theorem position_eq_none : self.position p = none ↔ ∀ i, p (self.leases i) = false := by
  simp [position, List.find?_eq_none]

theorem position_isSome (slot : Fin 8) (h : p (self.leases slot) = true) : (self.position p).isSome = true := by
  cases hposition : self.position p with
  | some _ => rfl
  | none => rw [position_eq_none.mp hposition slot] at h; cases h

theorem recordSlot_id (h : (self.leases slot).id = id) :
    (self.leases (self.recordSlot id)).id = id := by
  cases hposition : self.position (·.id = id) with
  | some own => simpa [recordSlot, hposition] using position_eq_some hposition
  | none =>
    have hnone := position_eq_none.mp hposition slot
    rw [h, decide_eq_true rfl] at hnone
    cases hnone

theorem registerMotherbrain_cases (self : NetworkRegistry) (identity : List UInt8) (ip : Ipv4)
    (peerDeviceHash peerBootHash requestedTtlSeconds nowMs : UInt32) :
    self.registerMotherbrain identity ip peerDeviceHash peerBootHash requestedTtlSeconds nowMs =
        (none, self) ∨
      ∃ slot generation counter,
        self.position (·.id = identityHash identity) = some slot ∧
        (self.leases slot).ip = ip ∧
        timeReached nowMs (self.leases slot).expiryMs = false ∧
        self.registerMotherbrain identity ip peerDeviceHash peerBootHash requestedTtlSeconds nowMs =
          (some (registrationTtl requestedTtlSeconds (self.leases slot).expiryMs nowMs, generation),
            { self with
              registrationGeneration := counter
              motherbrainIp := ip
              motherbrainLeaseId := identityHash identity
              motherbrainDeviceHash := peerDeviceHash
              motherbrainBootHash := peerBootHash
              motherbrainExpiryMs := nowMs +
                registrationTtl requestedTtlSeconds (self.leases slot).expiryMs nowMs * 1000 }) := by
  cases hposition : self.position (·.id = identityHash identity) with
  | none => exact .inl (by simp [registerMotherbrain, hposition])
  | some slot =>
    by_cases hip : (self.leases slot).ip = ip
    · cases hreached : timeReached nowMs (self.leases slot).expiryMs with
      | true => exact .inl (by simp [registerMotherbrain, hposition, hip, hreached])
      | false =>
        let same := self.sameRegistration (identityHash identity) ip peerDeviceHash peerBootHash
          nowMs
        let counter := if same then self.registrationGeneration
          else self.registrationGeneration + 1
        refine .inr ⟨slot, max counter 1, counter, rfl, hip, hreached, ?_⟩
        simp only [registerMotherbrain, hposition, hip, hreached, ne_eq, not_true_eq_false,
          if_false, Bool.false_eq_true, counter, same]
    · exact .inl (by simp [registerMotherbrain, hposition, hip])

theorem registrationTtl_le (requestedTtlSeconds : UInt32) {leaseExpiry nowMs : UInt32}
    (h : 1000 ≤ (leaseExpiry - nowMs).toNat) :
    (registrationTtl requestedTtlSeconds leaseExpiry nowMs).toNat * 1000 ≤
      (leaseExpiry - nowMs).toNat := by
  have hdiv : ((leaseExpiry - nowMs) / 1000).toNat = (leaseExpiry - nowMs).toNat / 1000 := by
    simp
  have hone : (1 : UInt32).toNat = 1 := rfl
  have hmin : (min requestedTtlSeconds ((leaseExpiry - nowMs) / 1000)).toNat ≤
      (leaseExpiry - nowMs).toNat / 1000 := by
    show (if _ ≤ _ then _ else _ : UInt32).toNat ≤ _
    split
    · rename_i hle
      exact hdiv ▸ UInt32.le_iff_toNat_le.mp hle
    · exact hdiv.le
  have hmax : (registrationTtl requestedTtlSeconds leaseExpiry nowMs).toNat ≤
      (leaseExpiry - nowMs).toNat / 1000 := by
    show (if _ ≤ _ then _ else _ : UInt32).toNat ≤ _
    split
    · omega
    · exact hmin
  omega

end Lemmas

end NetworkRegistry

end Netherwick.Brainstem
