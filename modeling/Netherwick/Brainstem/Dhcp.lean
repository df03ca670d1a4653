import Netherwick.Lib.Slots
import Netherwick.Brainstem.NetworkRegistry

/-! # Address leases

The access point serves eight addresses. Offers and leases share one table, in which a client is
known by its identifier, cut to 32 bytes, or without one by its hardware address. -/

namespace Netherwick.Brainstem

open Netherwick.Lib

def dhcpOfferHoldSeconds : Nat := 30

structure DhcpClient where
  hardwareAddress : Vector UInt8 6
  clientIdentifier : List UInt8
  deriving DecidableEq

namespace DhcpClient

def new (hardwareAddress : Vector UInt8 6) : DhcpClient := ⟨hardwareAddress, []⟩

def withMetadata (self : DhcpClient) (clientIdentifier : List UInt8) : DhcpClient :=
  { self with clientIdentifier := clientIdentifier.take 32 }

def leaseIdentity (self : DhcpClient) : List UInt8 :=
  if self.clientIdentifier.length = 0 then self.hardwareAddress.toList else self.clientIdentifier

def eq (self other : DhcpClient) : Bool := self.leaseIdentity == other.leaseIdentity

end DhcpClient

structure DhcpRequest where
  messageType : UInt8
  client : DhcpClient

structure DhcpLease where
  client : DhcpClient
  ip : Ipv4
  expiresAtMs : Nat

structure DhcpGrant where
  messageType : UInt8
  leaseIp : Ipv4
  deriving DecidableEq, Repr

abbrev DhcpLeaseState : Type := Slots 8 DhcpLease

def poolIp (slot : Fin 8) : Ipv4 := 0xc0a80402 + UInt32.ofNat slot.val

/-- Addition on a 64-bit clock, which stops at its end. -/
def saturatingAdd (a b : Nat) : Nat := min (a + b) 18446744073709551615

namespace DhcpLeaseState

variable (self : DhcpLeaseState)

def clearExpired (nowMs : Nat) : DhcpLeaseState := self.retain fun lease => nowMs < lease.expiresAtMs

def expiry (nowMs seconds : Nat) : Nat := saturatingAdd nowMs (seconds * 1000)

/-- The slot for a client without one: the motherbrain's if it is free, else the first free one. -/
def vacancy (isMotherbrain : List UInt8 → Bool) (client : DhcpClient) : Option (Fin 8) :=
  (if isMotherbrain client.leaseIdentity && (self 0).isNone then some 0 else none).or self.free

def reserve (isMotherbrain : List UInt8 → Bool) (client : DhcpClient) (nowMs seconds : Nat) :
    Option Ipv4 × DhcpLeaseState :=
  let expiresAtMs := expiry nowMs seconds
  match self.find (·.client.eq client) with
  | some (slot, lease) => (some lease.ip, self.put slot (some { lease with expiresAtMs }))
  | none =>
    match self.vacancy isMotherbrain client with
    | none => (none, self)
    | some slot =>
      (some (poolIp slot), self.put slot (some ⟨client, poolIp slot, expiresAtMs⟩))

def release (client : DhcpClient) : DhcpLeaseState :=
  match self.find (·.client.eq client) with
  | some (slot, _) => self.put slot none
  | none => self

def grant (isMotherbrain : List UInt8 → Bool) (request : DhcpRequest) (nowMs : Nat) :
    Option DhcpGrant × DhcpLeaseState :=
  let cleared := self.clearExpired nowMs
  if request.messageType = 1 then
    let (leaseIp, next) := cleared.reserve isMotherbrain request.client nowMs dhcpOfferHoldSeconds
    (leaseIp.map (⟨2, ·⟩), next)
  else if request.messageType = 3 then
    let (leaseIp, next) := cleared.reserve isMotherbrain request.client nowMs dhcpLeaseSeconds
    (leaseIp.map (⟨5, ·⟩), next)
  else if request.messageType = 7 then (none, cleared.release request.client)
  else (none, cleared)

end DhcpLeaseState

/-- What the server reads of a packet. -/
structure DhcpMessage where
  messageType : UInt8
  hardwareAddress : Vector UInt8 6
  clientIdentifier : List UInt8 := []

def DhcpMessage.request (self : DhcpMessage) : DhcpRequest :=
  ⟨self.messageType, (DhcpClient.new self.hardwareAddress).withMetadata self.clientIdentifier⟩

/-- The sender of a packet, by all of what it says about itself. -/
inductive Sender
  | hardware (address : Vector UInt8 6)
  | identified (identifier : List UInt8)
  deriving DecidableEq

def Sender.leaseIdentity : Sender → List UInt8
  | hardware address => address.toList
  | identified identifier => identifier.take 32

def DhcpMessage.sender (self : DhcpMessage) : Sender :=
  if self.clientIdentifier = [] then .hardware self.hardwareAddress
  else .identified self.clientIdentifier

@[simp] theorem DhcpMessage.leaseIdentity_request (self : DhcpMessage) :
    self.request.client.leaseIdentity = self.sender.leaseIdentity := by
  by_cases h : self.clientIdentifier = []
  · simp [request, sender, DhcpClient.withMetadata, DhcpClient.leaseIdentity, Sender.leaseIdentity,
      DhcpClient.new, h]
  · simp [request, sender, DhcpClient.withMetadata, DhcpClient.leaseIdentity, Sender.leaseIdentity, h]

theorem poolIp_injective : Function.Injective poolIp := by decide

end Netherwick.Brainstem
