import Netherwick.Brainstem.AuthorityLanes

/-! # When a lease expires

The ingress lane stamps an expiry with its own millisecond clock and the runtime compares it with
the low word of its microsecond counter divided by a thousand. The two agree until that word wraps. -/

namespace Netherwick.Brainstem

open Netherwick.Lib

namespace Lease

variable (st : Status) (generation leaseHash sessionHash requestedMs : UInt32) (uptimeUs : Nat)

def granted : Status :=
  (st.installAuthority generation leaseHash sessionHash uptimeUs
    (Status.leaseTtlMs requestedMs)).acknowledgeAuthorityTransition generation

/-- The runtime polls for an expired lease at this uptime. -/
def poll (st : Status) (atUs : Nat) : Bool × Status :=
  st.takeExpiredAuthority (microsecondClock atUs)

def pollAll (st : Status) (polls : List Nat) : Status :=
  polls.foldl (fun st atUs => (poll st atUs).2) st

/-- The end of the lease, in microseconds. -/
def dueUs (uptimeUs : Nat) (requestedMs : UInt32) : Nat :=
  1000 * (uptimeUs / 1000 + (Status.leaseTtlMs requestedMs).toNat)

/-- Polls in order, none more than `gapUs` after the one before. -/
def Spaced (gapUs : Nat) : Nat → List Nat → Prop
  | _, [] => True
  | lastUs, atUs :: polls => lastUs ≤ atUs ∧ atUs ≤ lastUs + gapUs ∧ Spaced gapUs atUs polls

/-- The lease is reported expired and cleared by the first poll at or after its end, and by none
before. -/
def ExpiresOnTime (gapUs : Nat) : Prop :=
  ∀ before atUs, Spaced gapUs uptimeUs (before ++ [atUs]) →
    (∀ earlier ∈ before, earlier < dueUs uptimeUs requestedMs) →
    let outcome := poll (pollAll (granted st generation leaseHash sessionHash requestedMs uptimeUs)
      before) atUs
    outcome.1 = decide (dueUs uptimeUs requestedMs ≤ atUs) ∧
      (outcome.2.authority.activeLeaseHash = 0 ↔ dueUs uptimeUs requestedMs ≤ atUs)

/-- The expiry as the cell holds it. -/
def stampMs (uptimeUs : Nat) (requestedMs : UInt32) : Nat :=
  (uptimeUs / 1000 + (Status.leaseTtlMs requestedMs).toNat) % 4294967296

/-- The expiry was stamped since the millisecond clock last wrapped, and the microsecond counter
does not wrap before a poll can see it. -/
def WithinTurn (gapUs : Nat) : Prop :=
  (Status.leaseTtlMs requestedMs).toNat ≤ stampMs uptimeUs requestedMs ∧
    1000 * stampMs uptimeUs requestedMs + gapUs ≤ 4294967296

instance : Decidable (WithinTurn requestedMs uptimeUs gapUs) := inferInstanceAs (Decidable (_ ∧ _))

section Stamp

variable {st generation leaseHash sessionHash requestedMs uptimeUs}

theorem leaseTtlMs_bounds (requestedMs : UInt32) :
    250 ≤ (Status.leaseTtlMs requestedMs).toNat ∧ (Status.leaseTtlMs requestedMs).toNat ≤ 60000 := by
  have hmin : ∀ a b : UInt32, (min a b).toNat = min a.toNat b.toNat := fun a b => by
    show (if a ≤ b then a else b).toNat = _
    split <;> rename_i h <;> rw [UInt32.le_iff_toNat_le] at h <;> omega
  have hmax : ∀ a b : UInt32, (max a b).toNat = max a.toNat b.toNat := fun a b => by
    show (if a ≤ b then b else a).toNat = _
    split <;> rename_i h <;> rw [UInt32.le_iff_toNat_le] at h <;> omega
  have hlow : (250 : UInt32).toNat = 250 := rfl
  have hhigh : (60000 : UInt32).toNat = 60000 := rfl
  rw [Status.leaseTtlMs, hmax, hmin, hlow, hhigh]
  omega

theorem granted_expires : (granted st generation leaseHash sessionHash requestedMs
    uptimeUs).authority.activeLeaseExpiresMs.toNat = stampMs uptimeUs requestedMs := by
  show (UInt32.ofNat (uptimeUs / 1000) + Status.leaseTtlMs requestedMs).toNat = _
  rw [UInt32.toNat_add, UInt32.toNat_ofNat', stampMs]
  omega

/-- Does the runtime see the stamp as reached at this uptime? -/
def Seen (stampMs atUs : Nat) : Prop :=
  stampMs = 0 ∨ stampMs ≤ atUs % 4294967296 / 1000 ∨
    atUs % 4294967296 / 1000 + 2147483649 < stampMs

theorem poll_granted (hlease : leaseHash ≠ 0) (atUs : Nat) :
    (poll (granted st generation leaseHash sessionHash requestedMs uptimeUs) atUs).1 = true ↔
      Seen (stampMs uptimeUs requestedMs) atUs := by
  have hactive : (granted st generation leaseHash sessionHash requestedMs
      uptimeUs).authority.activeLeaseHash = leaseHash := rfl
  have hzero : (granted st generation leaseHash sessionHash requestedMs
      uptimeUs).authority.activeLeaseExpiresMs = 0 ↔ stampMs uptimeUs requestedMs = 0 := by
    rw [← UInt32.toNat_inj, granted_expires]
    rfl
  have hexpired : (granted st generation leaseHash sessionHash requestedMs
      uptimeUs).authorityExpired (microsecondClock atUs) = true ↔
        Seen (stampMs uptimeUs requestedMs) atUs := by
    rw [Status.authorityExpired, Bool.or_eq_true, decide_eq_true_eq, hzero,
      timeReached_microsecondClock_iff, granted_expires, Seen]
  rw [poll, Status.takeExpiredAuthority, hactive, ← hexpired]
  cases (granted st generation leaseHash sessionHash requestedMs
    uptimeUs).authorityExpired (microsecondClock atUs) <;> simp [hlease]

theorem poll_cleared (hlease : leaseHash ≠ 0) (atUs : Nat) :
    (poll (granted st generation leaseHash sessionHash requestedMs uptimeUs)
        atUs).2.authority.activeLeaseHash = 0 ↔ Seen (stampMs uptimeUs requestedMs) atUs := by
  have hreported : (poll (granted st generation leaseHash sessionHash requestedMs uptimeUs)
      atUs).1 = true ↔ Seen (stampMs uptimeUs requestedMs) atUs := poll_granted hlease atUs
  rw [← hreported, poll, Status.takeExpiredAuthority]
  split
  · simp only [Status.revokeAuthority, iff_true]
    split <;> rfl
  · exact iff_of_false hlease (by simp)

theorem pollAll_granted (hlease : leaseHash ≠ 0) {polls : List Nat}
    (hquiet : ∀ atUs ∈ polls, ¬ Seen (stampMs uptimeUs requestedMs) atUs) :
    pollAll (granted st generation leaseHash sessionHash requestedMs uptimeUs) polls =
      granted st generation leaseHash sessionHash requestedMs uptimeUs := by
  induction polls with
  | nil => rfl
  | cons atUs polls ih =>
    have hreported : (poll (granted st generation leaseHash sessionHash requestedMs uptimeUs)
        atUs).1 = true ↔ Seen (stampMs uptimeUs requestedMs) atUs := poll_granted hlease atUs
    have hunseen := mt hreported.mp (hquiet atUs List.mem_cons_self)
    have hkept : (poll (granted st generation leaseHash sessionHash requestedMs uptimeUs)
        atUs).2 = granted st generation leaseHash sessionHash requestedMs uptimeUs := by
      rw [poll, Status.takeExpiredAuthority] at hunseen ⊢
      split at hunseen
      · exact absurd rfl hunseen
      · rename_i hkeep
        rw [if_neg hkeep]
    show pollAll (poll (granted st generation leaseHash sessionHash requestedMs uptimeUs)
      atUs).2 polls = _
    rw [hkept]
    exact ih fun other hother => hquiet other (List.mem_cons_of_mem _ hother)

theorem uptimeUs_lt_dueUs : uptimeUs < dueUs uptimeUs requestedMs := by
  have httl := (leaseTtlMs_bounds requestedMs).1
  rw [dueUs]
  omega

/-- The stamp and the counter agree on every poll that a schedule can make up to the first one
after the end, if and only if the lease lies within one turn of both clocks. -/
theorem seen_iff_withinTurn {gapUs : Nat} (hgap : 0 < gapUs) :
    (∀ atUs, uptimeUs ≤ atUs → atUs < dueUs uptimeUs requestedMs + gapUs →
      (Seen (stampMs uptimeUs requestedMs) atUs ↔ dueUs uptimeUs requestedMs ≤ atUs)) ↔
      WithinTurn requestedMs uptimeUs gapUs := by
  have httl := leaseTtlMs_bounds requestedMs
  have hms : uptimeUs / 1000 * 1000 ≤ uptimeUs ∧ uptimeUs < uptimeUs / 1000 * 1000 + 1000 := by
    omega
  unfold WithinTurn Seen stampMs dueUs
  generalize (Status.leaseTtlMs requestedMs).toNat = ttl at *
  generalize uptimeUs / 1000 = uptimeMs at *
  -- `stamp` is what the cell holds of the end, `turn` how often the millisecond clock wrapped.
  have hend := Nat.div_add_mod (uptimeMs + ttl) 4294967296
  have hlt := Nat.mod_lt (uptimeMs + ttl) (show 4294967296 > 0 by decide)
  generalize (uptimeMs + ttl) / 4294967296 = turn at *
  generalize (uptimeMs + ttl) % 4294967296 = stamp at *
  constructor
  · intro hagree
    by_contra hout
    rcases Nat.lt_or_ge 4294967 stamp with hbig | hsmall
    · -- The quotient clock never gets as far as the stamp.
      have hdue := hagree (1000 * (uptimeMs + ttl)) (by omega) (by omega)
      have hearly := hagree (1000 * (uptimeMs + ttl) - 2000) (by omega) (by omega)
      omega
    · rcases Nat.lt_or_ge stamp ttl with hwrapped | hturn
      · rcases Nat.eq_zero_or_pos stamp with hzero | hpos
        · have hstart := hagree uptimeUs (by omega) (by omega)
          omega
        · -- Just before the wrap the counter is past a stamp from after it.
          have hwrap := hagree (1000 * (uptimeMs + ttl - stamp) - 1) (by omega) (by omega)
          omega
      · have hlate := hagree (1000 * (uptimeMs + ttl) + (4294967296 - 1000 * stamp)) (by omega)
          (by omega)
        omega
  · rintro ⟨hturn, hroom⟩ atUs hlo hhi
    have hfloor : 4294967296 * (1000 * turn) ≤ atUs := by omega
    have hceil : atUs < 4294967296 * (1000 * turn + 1) := by omega
    have hword : atUs % 4294967296 = atUs - 4294967296 * (1000 * turn) := by omega
    rw [hword]
    omega

theorem Spaced.bounds {gapUs lastUs atUs dueUs : Nat} {before : List Nat}
    (hspaced : Spaced gapUs lastUs (before ++ [atUs])) (hlast : lastUs < dueUs)
    (hbefore : ∀ earlier ∈ before, earlier < dueUs) :
    (∀ earlier ∈ before, lastUs ≤ earlier) ∧ lastUs ≤ atUs ∧ atUs < dueUs + gapUs := by
  induction before generalizing lastUs with
  | nil =>
    obtain ⟨hlo, hhi, -⟩ := hspaced
    exact ⟨by simp, hlo, by omega⟩
  | cons first before ih =>
    obtain ⟨hlo, -, hrest⟩ := hspaced
    obtain ⟨hall, hat, hroom⟩ := ih hrest (hbefore first List.mem_cons_self)
      fun earlier hearlier => hbefore earlier (List.mem_cons_of_mem _ hearlier)
    refine ⟨?_, by omega, hroom⟩
    intro earlier hearlier
    rcases List.mem_cons.mp hearlier with rfl | hmem
    · exact hlo
    · exact hlo.trans (hall earlier hmem)

theorem spaced_range' {gapUs lastUs startUs count atUs : Nat} (hgap : 0 < gapUs)
    (hlo : lastUs ≤ startUs) (hhi : startUs ≤ lastUs + 1) (hat : startUs + count ≤ atUs)
    (hroom : atUs < startUs + count + gapUs) :
    Spaced gapUs lastUs (List.range' startUs count ++ [atUs]) := by
  induction count generalizing lastUs startUs with
  | zero => exact ⟨by omega, by omega, trivial⟩
  | succ count ih =>
    rw [List.range'_succ, List.cons_append]
    exact ⟨hlo, by omega, ih (by omega) (by omega) (by omega) (by omega)⟩

/-- Polling every microsecond reaches each moment before the end, and no poll on the way there
reports the lease. -/
theorem ExpiresOnTime.unseen {gapUs : Nat}
    (htime : ExpiresOnTime st generation leaseHash sessionHash requestedMs uptimeUs gapUs)
    (hgap : 0 < gapUs) (hlease : leaseHash ≠ 0) (atUs : Nat) (hlo : uptimeUs ≤ atUs)
    (hhi : atUs < dueUs uptimeUs requestedMs) : ¬ Seen (stampMs uptimeUs requestedMs) atUs := by
  induction atUs using Nat.strong_induction_on with
  | _ atUs ih =>
    have hreport := htime (List.range' uptimeUs (atUs - uptimeUs)) atUs
      (spaced_range' hgap le_rfl (by omega) (by omega) (by omega))
      (fun earlier hearlier => by have := List.mem_range'_1.mp hearlier; omega)
    dsimp only at hreport
    rw [pollAll_granted hlease, Bool.eq_iff_iff, poll_granted hlease, decide_eq_true_eq] at hreport
    · exact fun hseen => absurd (hreport.1.mp hseen) (by omega)
    · intro earlier hearlier
      have hin := List.mem_range'_1.mp hearlier
      exact ih earlier (by omega) hin.1 (by omega)

end Stamp

/-- For every uptime and every duration a handler can ask for, and however close together the
runtime polls, the two lanes agree on the end of a lease exactly when it lies within one turn of
both their clocks. -/
theorem expiresOnTime_iff_withinTurn {gapUs : Nat} (hgap : 0 < gapUs) (lease : List UInt8) :
    ExpiresOnTime st generation (Session.tokenHash lease) sessionHash requestedMs uptimeUs gapUs ↔
      WithinTurn requestedMs uptimeUs gapUs := by
  have hlease := Session.tokenHash_ne_zero lease
  rw [← seen_iff_withinTurn hgap]
  constructor
  · intro htime
    have hunseen := htime.unseen hgap hlease
    intro atUs hlo hhi
    rcases Nat.lt_or_ge atUs (dueUs uptimeUs requestedMs) with hearly | hdue
    · simp [hunseen atUs hlo hearly, hearly]
    · have hspan : uptimeUs < dueUs uptimeUs requestedMs := uptimeUs_lt_dueUs
      have hreport := htime
        (List.range' uptimeUs (dueUs uptimeUs requestedMs - uptimeUs)) atUs
        (spaced_range' hgap le_rfl (by omega) (by omega) (by omega))
        (fun earlier hearlier => by have := List.mem_range'_1.mp hearlier; omega)
      dsimp only at hreport
      rw [pollAll_granted hlease, Bool.eq_iff_iff, poll_granted hlease, decide_eq_true_eq]
        at hreport
      · exact hreport.1
      · intro earlier hearlier
        have hin := List.mem_range'_1.mp hearlier
        exact hunseen earlier hin.1 (by omega)
  · intro hagree before atUs hspaced hbefore
    obtain ⟨hfrom, hlo, hhi⟩ := hspaced.bounds uptimeUs_lt_dueUs hbefore
    dsimp only
    rw [pollAll_granted hlease, poll_cleared hlease, Bool.eq_iff_iff, poll_granted hlease,
      decide_eq_true_eq, and_self]
    · exact hagree atUs hlo hhi
    · intro earlier hearlier hseen
      have hearly := hbefore earlier hearlier
      have hdue := (hagree earlier (hfrom earlier hearlier) (by omega)).mp hseen
      omega

/-- A lease of one second, granted in the first minute. -/
theorem expiresOnTime_first_minute :
    0 < 1000 ∧ WithinTurn 1000 60000000 1000 ∧
      (ExpiresOnTime {} 1 (Session.tokenHash (utf8 "a")) 1 1000 60000000 1000 ↔
        WithinTurn 1000 60000000 1000) :=
  ⟨by decide, by decide +kernel, expiresOnTime_iff_withinTurn _ _ _ _ _ (by decide) _⟩

/-- Two hours up, the quotient clock never reaches the stamp of a one-second lease: the poll at
its end reports nothing. -/
theorem expired_lease_unreported :
    ¬ ∀ (uptimeUs : Nat) (requestedMs : UInt32),
      ExpiresOnTime {} 1 (Session.tokenHash (utf8 "a")) 1 requestedMs uptimeUs 1000000 := by
  intro htime
  have hreport := htime 7200000000 1000 [] 7201000000
  exact absurd (hreport ⟨by decide, by decide, trivial⟩ (by simp)).1 (by decide +kernel)

end Lease

end Netherwick.Brainstem
