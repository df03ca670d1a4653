import Netherwick.Lib.History
import Netherwick.Brainstem.Dhcp

/-! # The access point at work

The address server and the registry run on one clock. The messages that were served are kept with
their answers. -/

namespace Netherwick.Brainstem

open Netherwick.Lib

structure Served where
  sender : Sender
  messageType : UInt8
  nowMs : Nat
  recordedMs : Nat
  answer : Option DhcpGrant
  deriving DecidableEq

structure Network where
  leases : DhcpLeaseState := Slots.empty
  registry : NetworkRegistry := {}
  nowMs : Nat := 0
  served : List Served := []
  /-- The end of the last registration, on a clock that does not wrap. -/
  registeredUntilMs : Nat := 0

inductive NetworkEvent
  /-- A packet arrives; the clock is read again before the lease is recorded. -/
  | dhcp (message : DhcpMessage) (recordedMs : Nat)
  | register (identity : List UInt8) (ip : Ipv4)
      (peerDeviceHash peerBootHash requestedTtlSeconds : UInt32)
  | replaceSession
  | elapse

/-- Something that happens at a time. -/
structure NetworkAction where
  nowMs : Nat
  event : NetworkEvent

namespace Network

variable (net : Network)

/-- What the server answers and the table that it leaves. -/
def serve (message : DhcpMessage) (nowMs : Nat) : Option DhcpGrant × DhcpLeaseState :=
  net.leases.grant net.registry.leaseIdentityIsMotherbrain message.request nowMs

def answer (message : DhcpMessage) (nowMs : Nat) : Option DhcpGrant := (net.serve message nowMs).1

/-- Offers are recorded like leases, for as long as a lease lasts. -/
def record (message : DhcpMessage) (nowMs recordedMs : Nat) : NetworkRegistry :=
  match net.answer message nowMs with
  | none => net.registry
  | some grant =>
    net.registry.recordLease message.request.client.leaseIdentity grant.leaseIp
      (UInt32.ofNat recordedMs + UInt32.ofNat (dhcpLeaseSeconds * 1000))

def register (identity : List UInt8) (ip : Ipv4)
    (peerDeviceHash peerBootHash requestedTtlSeconds : UInt32) (nowMs : Nat) :
    Option (UInt32 × UInt32) × NetworkRegistry :=
  net.registry.registerMotherbrain identity ip peerDeviceHash peerBootHash requestedTtlSeconds
    (UInt32.ofNat nowMs)

def act (action : NetworkAction) : Network :=
  match action.event with
  | .dhcp message recordedMs =>
    { net with
      leases := (net.serve message action.nowMs).2
      registry := net.record message action.nowMs recordedMs
      nowMs := recordedMs
      served := ⟨message.sender, message.messageType, action.nowMs, recordedMs,
        net.answer message action.nowMs⟩ :: net.served }
  | .register identity ip peerDeviceHash peerBootHash requestedTtlSeconds =>
    let (lifetime, registry) :=
      net.register identity ip peerDeviceHash peerBootHash requestedTtlSeconds action.nowMs
    { net with
      registry
      nowMs := action.nowMs
      registeredUntilMs := match lifetime with
        | none => net.registeredUntilMs
        | some (ttl, _) => action.nowMs + ttl.toNat * 1000 }
  | .replaceSession =>
    { net with registry := net.registry.clearMotherbrainRegistration, nowMs := action.nowMs }
  | .elapse => { net with nowMs := action.nowMs }

/-- The clock does not go back, neither between two actions nor while a packet is served. -/
def InOrder (net : Network) (action : NetworkAction) : Prop :=
  net.nowMs ≤ action.nowMs ∧ action.nowMs ≤ (net.act action).nowMs

instance (net : Network) (action : NetworkAction) : Decidable (net.InOrder action) :=
  inferInstanceAs (Decidable (_ ∧ _))

end Network

/-- Is the sender promised the address at a time, by an acknowledgement that it has not released? -/
def promised (sender : Sender) (ip : Ipv4) (atMs : Nat) : List Served → Bool
  | [] => false
  | entry :: past =>
    if entry.sender = sender then
      entry.messageType != 7 &&
        (entry.answer = some ⟨5, ip⟩ && atMs < entry.nowMs + dhcpLeaseSeconds * 1000 ||
          promised sender ip atMs past)
    else promised sender ip atMs past

/-- Until when the last message of the sender asked to keep its address. -/
def reservedUntil (sender : Sender) : List Served → Option Nat
  | [] => none
  | entry :: past =>
    if entry.sender = sender then
      if entry.messageType = 1 then
        some (DhcpLeaseState.expiry entry.nowMs dhcpOfferHoldSeconds)
      else if entry.messageType = 3 then
        some (DhcpLeaseState.expiry entry.nowMs dhcpLeaseSeconds)
      else if entry.messageType = 7 then none
      else reservedUntil sender past
    else reservedUntil sender past

theorem promised_antitone {sender : Sender} {ip : Ipv4} {early late : Nat} (hle : early ≤ late)
    {served : List Served} (h : promised sender ip late served = true) :
    promised sender ip early served = true := by
  induction served with
  | nil => exact h
  | cons entry past ih =>
    simp only [promised] at h ⊢
    split at h
    · rename_i hsender
      simp only [hsender, if_true, Bool.and_eq_true, Bool.or_eq_true, decide_eq_true_eq] at h ⊢
      exact ⟨h.1, h.2.imp (fun hack => ⟨hack.1, lt_of_le_of_lt hle hack.2⟩) ih⟩
    · rename_i hsender
      simpa only [hsender, if_false] using ih h

end Netherwick.Brainstem
