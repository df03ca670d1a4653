import Mathlib.Data.Nat.ModEq
import Mathlib.Data.UInt
import Mathlib.Tactic.Ring

/-! # Byte strings with checked accesses

An access outside a byte string has no result. The one's complement sum of a string's words is
taken modulo 65535, where zero has two forms: only the empty sum gives the first. FNV-1a hashes a
string to 32 bits. -/

namespace Netherwick.Lib

section Hash

def fnvBasis : UInt32 := 0x811c9dc5

def fnv (hash : UInt32) (bytes : List UInt8) : UInt32 :=
  bytes.foldl (fun hash byte => (hash ^^^ byte.toUInt32) * 0x01000193) hash

@[simp] theorem fnv_nil (hash : UInt32) : fnv hash [] = hash := rfl

/-- A hash that is never zero. -/
def fnvToken (bytes : List UInt8) : UInt32 := max (fnv fnvBasis bytes) 1

theorem max_one_ne_zero (hash : UInt32) : max hash 1 ≠ 0 := by
  show (if hash ≤ 1 then 1 else hash) ≠ 0
  split
  · decide
  · rintro rfl
    contradiction

theorem max_one_eq_self {hash : UInt32} (h : hash ≠ 0) : max hash 1 = hash := by
  show (if hash ≤ 1 then 1 else hash) = hash
  split
  · rename_i hle
    have htoNat : hash.toNat ≠ 0 := fun hzero => h (UInt32.toNat_inj.mp hzero)
    have hone : (1 : UInt32).toNat = 1 := rfl
    exact UInt32.toNat_inj.mp (Nat.le_antisymm (by omega) (UInt32.le_iff_toNat_le.mp hle))
  · rfl

end Hash

end Netherwick.Lib

namespace Netherwick.Lib.Bytes

/-- The bytes of a range, as far as there are any. -/
def span (bytes : List UInt8) (start stop : Nat) : List UInt8 := (bytes.take stop).drop start

def byteAt (bytes : List UInt8) (i : Nat) : UInt8 := bytes.getD i 0

/-- `bytes[i]`. -/
def index (bytes : List UInt8) (i : Nat) : Option UInt8 := bytes[i]?

/-- `&bytes[start..stop]`. -/
def slice (bytes : List UInt8) (start stop : Nat) : Option (List UInt8) :=
  if start ≤ stop ∧ stop ≤ bytes.length then some (span bytes start stop) else none

/-- `bytes[offset..offset + data.len()].copy_from_slice(data)`. -/
def write (bytes : List UInt8) (offset : Nat) (data : List UInt8) : Option (List UInt8) :=
  if offset + data.length ≤ bytes.length then
    some (bytes.take offset ++ data ++ bytes.drop (offset + data.length))
  else none

/-- `u16::from_be_bytes`. -/
def word (high low : UInt8) : Nat := high.toNat * 256 + low.toNat

/-- `to_be_bytes` of the lower sixteen bits. -/
def be16 (value : Nat) : List UInt8 := [UInt8.ofNat (value / 256), UInt8.ofNat value]

section Access

variable {bytes front middle back data : List UInt8} {i start stop offset value : Nat}

theorem index_eq (h : i < bytes.length) : index bytes i = some (byteAt bytes i) := by
  rw [index, byteAt, List.getD_eq_getElem?_getD, List.getElem?_eq_getElem h, Option.getD_some]

theorem drop_eq_cons (h : i < bytes.length) :
    bytes.drop i = byteAt bytes i :: bytes.drop (i + 1) := by
  rw [List.drop_eq_getElem_cons h, byteAt, List.getD_eq_getElem?_getD, List.getElem?_eq_getElem h,
    Option.getD_some]

theorem slice_eq (h : start ≤ stop ∧ stop ≤ bytes.length) :
    slice bytes start stop = some (span bytes start stop) := if_pos h

theorem length_span (h : stop ≤ bytes.length) : (span bytes start stop).length = stop - start := by
  rw [span, List.length_drop, List.length_take, Nat.min_eq_left h]

theorem span_span (h : start + stop ≤ value) :
    span (span bytes start value) i stop = span bytes (start + i) (start + stop) := by
  rw [span, span, span, List.take_drop, List.take_take, Nat.min_eq_left h, List.drop_drop]

theorem byteAt_span (h : start + i < stop) :
    byteAt (span bytes start stop) i = byteAt bytes (start + i) := by
  simp only [byteAt, span, List.getD_eq_getElem?_getD, List.getElem?_drop, List.getElem?_take, h,
    if_true]

theorem span_append (hfront : front.length = start) (hmiddle : start + middle.length = stop) :
    span (front ++ middle ++ back) start stop = middle := by
  have hlength : (front ++ middle).length = stop := by rw [List.length_append, hfront, hmiddle]
  rw [span, ← hlength, List.take_left, ← hfront, List.drop_left]

theorem write_append (hfront : front.length = offset) (hmiddle : middle.length = data.length) :
    write (front ++ middle ++ back) offset data = some (front ++ data ++ back) := by
  have hroom : offset + data.length ≤ (front ++ middle ++ back).length := by
    rw [List.length_append, List.length_append]
    omega
  have hlength : (front ++ middle).length = offset + data.length := by
    rw [List.length_append, hfront, hmiddle]
  have htake : (front ++ middle ++ back).take offset = front := by
    rw [List.append_assoc, ← hfront, List.take_left]
  rw [write, if_pos hroom, htake, ← hlength, List.drop_left]

/-- A string of which the front is written already. -/
theorem write_drop (hfront : front.length = offset) (hstop : offset + data.length = stop)
    (h : stop ≤ bytes.length) :
    write (front ++ bytes.drop offset) offset data = some (front ++ data ++ bytes.drop stop) := by
  have hrest : bytes.drop offset = (bytes.drop offset).take data.length ++ bytes.drop stop := by
    rw [← hstop, ← List.drop_drop, List.take_append_drop]
  conv_lhs => rw [hrest, ← List.append_assoc]
  refine write_append hfront ?_
  rw [List.length_take, List.length_drop]
  omega

theorem drop_eq_span (h : start ≤ stop) :
    bytes.drop start = span bytes start stop ++ bytes.drop stop := by
  obtain ⟨more, rfl⟩ := Nat.exists_eq_add_of_le h
  rw [span, Nat.add_comm start, List.drop_take, Nat.add_sub_cancel, Nat.add_comm more,
    ← List.drop_drop, List.take_append_drop]

theorem span_cons {byte : UInt8} (hbyte : bytes[i]? = some byte) (h : i < stop) :
    span bytes i stop = byte :: span bytes (i + 1) stop := by
  obtain ⟨hlt, rfl⟩ := List.getElem?_eq_some_iff.mp hbyte
  have hlength : i < (bytes.take stop).length := by
    rw [List.length_take]
    omega
  rw [span, span, List.drop_eq_getElem_cons hlength, List.getElem_take]

theorem span_append_span (hstart : start ≤ i) (hstop : i ≤ stop) :
    span bytes start i ++ span bytes i stop = span bytes start stop := by
  have hinner : span bytes start i = (span bytes start stop).take (i - start) := by
    rw [span, span, ← List.drop_take, List.take_take, Nat.min_eq_left hstop]
  have hrest : span bytes i stop = (span bytes start stop).drop (i - start) := by
    rw [span, span, List.drop_drop, Nat.add_sub_cancel' hstart]
  rw [hinner, hrest, List.take_append_drop]

theorem span_after (hfront : front.length = offset) (h : offset ≤ start) :
    span (front ++ bytes.drop offset) start stop = span bytes start stop := by
  by_cases hstop : stop ≤ start
  · have hnil : ∀ data : List UInt8, span data start stop = [] := by
      intro data
      rw [span, List.drop_eq_nil_iff, List.length_take]
      omega
    rw [hnil, hnil]
  · obtain ⟨more, rfl⟩ := Nat.exists_eq_add_of_le h
    have hdrop : ∀ data : List UInt8, span data (offset + more) stop =
        ((data.drop offset).take (stop - offset)).drop more := by
      intro data
      rw [span, ← List.drop_take, List.drop_drop]
    rw [hdrop, hdrop, ← hfront, List.drop_left]

/-- A string is what lies before, within and after a range. -/
theorem span_split (h : start ≤ stop ∧ stop ≤ bytes.length) :
    bytes = bytes.take start ++ span bytes start stop ++ bytes.drop stop := by
  have htake : bytes.take start ++ span bytes start stop = bytes.take stop := by
    rw [span]
    conv_rhs => rw [← List.take_append_drop start (bytes.take stop)]
    rw [List.take_take, Nat.min_eq_left h.1]
  rw [htake, List.take_append_drop]

@[simp] theorem length_be16 : (be16 value).length = 2 := rfl

theorem word_be16 (h : value < 65536) :
    word (UInt8.ofNat (value / 256)) (UInt8.ofNat value) = value := by
  rw [word, UInt8.toNat_ofNat', UInt8.toNat_ofNat']
  omega

end Access

section Checksum

/-- The sum of the big-endian words; a last single byte is the higher half of a word. -/
def wordSum : List UInt8 → Nat
  | high :: low :: rest => word high low + wordSum rest
  | [high] => high.toNat * 256
  | [] => 0

/-- `while sum >> 16 != 0`, with the sum itself as the bound on its rounds. -/
def foldCarries : Nat → Nat → Nat
  | 0, sum => sum
  | rounds + 1, sum =>
    if sum / 65536 ≠ 0 then foldCarries rounds (sum % 65536 + sum / 65536) else sum

/-- The complement of the folded sum. -/
def checksum (bytes : List UInt8) : Nat :=
  65535 - foldCarries (wordSum bytes) (wordSum bytes) % 65536

variable {bytes front back : List UInt8}

theorem foldCarries_spec {rounds sum : Nat} (h : sum ≤ rounds) :
    foldCarries rounds sum < 65536 ∧ foldCarries rounds sum ≡ sum [MOD 65535] ∧
      (foldCarries rounds sum = 0 ↔ sum = 0) := by
  induction rounds generalizing sum with
  | zero =>
    obtain rfl : sum = 0 := by omega
    exact ⟨by decide, rfl, Iff.rfl⟩
  | succ rounds ih =>
    rw [foldCarries]
    by_cases hcarry : sum / 65536 ≠ 0
    · rw [if_pos hcarry]
      obtain ⟨hlt, hmod, hzero⟩ := @ih (sum % 65536 + sum / 65536) (by omega)
      refine ⟨hlt, hmod.trans ?_, hzero.trans (by omega)⟩
      rw [Nat.ModEq]
      omega
    · rw [if_neg hcarry]
      exact ⟨by omega, rfl, Iff.rfl⟩

/-- The checksum of a string is zero if its words add up to a multiple of 65535 other than zero. -/
theorem checksum_eq_zero_iff :
    checksum bytes = 0 ↔ wordSum bytes ≠ 0 ∧ wordSum bytes % 65535 = 0 := by
  obtain ⟨hlt, hmod, hzero⟩ := foldCarries_spec (le_refl (wordSum bytes))
  rw [Nat.ModEq] at hmod
  rw [checksum]
  omega

theorem wordSum_append (h : 2 ∣ front.length) :
    wordSum (front ++ back) = wordSum front + wordSum back := by
  induction front using wordSum.induct with
  | case1 high low rest ih =>
    rw [List.length_cons, List.length_cons] at h
    simp only [List.cons_append, wordSum, ih (by omega), Nat.add_assoc]
  | case2 high => simp at h
  | case3 => simp [wordSum]

/-- A string whose checksum is put into a word of zeros has the checksum zero. -/
theorem checksum_inserted (h : 2 ∣ front.length) :
    checksum (front ++ be16 (checksum (front ++ [0, 0] ++ back)) ++ back) = 0 := by
  have hword : ∀ data : List UInt8, data.length = 2 →
      wordSum (front ++ data ++ back) = wordSum front + wordSum data + wordSum back := by
    intro data hdata
    rw [List.append_assoc, wordSum_append h, wordSum_append (by omega), Nat.add_assoc]
  have hsum := hword [0, 0] rfl
  obtain ⟨hlt, hmod, hzero⟩ := foldCarries_spec (le_refl (wordSum (front ++ [0, 0] ++ back)))
  have hcheck : checksum (front ++ [0, 0] ++ back) =
      65535 - foldCarries (wordSum (front ++ [0, 0] ++ back)) (wordSum (front ++ [0, 0] ++ back)) := by
    rw [checksum, Nat.mod_eq_of_lt hlt]
  generalize foldCarries _ _ = folded at hlt hmod hzero hcheck
  have hfield : wordSum (be16 (checksum (front ++ [0, 0] ++ back))) = 65535 - folded := by
    rw [hcheck, be16]
    simp only [wordSum, Nat.add_zero]
    exact word_be16 (by omega)
  have hempty : wordSum [0, 0] = 0 := rfl
  rw [checksum_eq_zero_iff, hword _ length_be16, hfield]
  rw [hsum, hempty, Nat.ModEq] at hmod
  rw [hsum, hempty] at hzero
  omega

end Checksum

end Netherwick.Lib.Bytes
