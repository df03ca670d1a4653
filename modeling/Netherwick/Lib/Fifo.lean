import Mathlib.Data.List.Basic

/-! # A link that keeps its order

What is sent waits in flight, arrives in its order and is read in its order. -/

namespace Netherwick.Lib

structure Fifo (α : Type) where
  inFlight : List α := []
  arrived : List α := []

namespace Fifo

variable {α : Type}

/-- All that was sent and not read, the oldest first. -/
def unread (link : Fifo α) : List α := link.arrived ++ link.inFlight

def send (link : Fifo α) (item : α) : Fifo α :=
  { link with inFlight := link.inFlight ++ [item] }

def deliver (link : Fifo α) (count : Nat) : Fifo α where
  inFlight := link.inFlight.drop count
  arrived := link.arrived ++ link.inFlight.take count

/-- Reading takes the first that arrived, if there is one. -/
def read (link : Fifo α) : Fifo α := { link with arrived := link.arrived.tail }

@[simp] theorem unread_send (link : Fifo α) (item : α) :
    (link.send item).unread = link.unread ++ [item] := by
  simp [unread, send]

@[simp] theorem unread_deliver (link : Fifo α) (count : Nat) :
    (link.deliver count).unread = link.unread := by
  simp [unread, deliver]

theorem unread_read_of_arrived (link : Fifo α) (h : link.arrived ≠ []) :
    link.read.unread = link.unread.tail := by
  simp [unread, read, h]

theorem unread_read_of_none (link : Fifo α) (h : link.arrived = []) :
    link.read.unread = link.unread := by
  simp [unread, read, h]

theorem mem_unread_read {link : Fifo α} {item : α} (h : item ∈ link.read.unread) :
    item ∈ link.unread := by
  by_cases harrived : link.arrived = []
  · rwa [unread_read_of_none link harrived] at h
  · rw [unread_read_of_arrived link harrived] at h
    exact List.mem_of_mem_tail h

theorem arrived_of_last_mem {link : Fifo α} {earlier : List α} {item : α}
    (hunread : link.unread = earlier ++ [item]) (hnew : item ∉ earlier)
    (hmem : item ∈ link.arrived) : link.arrived = earlier ++ [item] := by
  have hflight : link.inFlight = [] := by
    by_contra hne
    obtain ⟨front, last, hlast⟩ := (List.eq_nil_or_concat' link.inFlight).resolve_left hne
    rw [unread, hlast, ← List.append_assoc] at hunread
    have hfront : link.arrived ++ front = earlier := (List.append_inj' hunread rfl).1
    apply hnew
    rw [← hfront]
    exact List.mem_append_left _ hmem
  simpa [unread, hflight] using hunread

theorem mem_arrived_of_single {link : Fifo α} {item : α} (hunread : link.unread = [item])
    (harrived : link.arrived ≠ []) : item ∈ link.arrived := by
  obtain ⟨first, rest, hcons⟩ := List.exists_cons_of_ne_nil harrived
  rw [unread, hcons, List.cons_append] at hunread
  rw [hcons, (List.cons.inj hunread).1]
  exact List.mem_cons_self

end Fifo

end Netherwick.Lib
