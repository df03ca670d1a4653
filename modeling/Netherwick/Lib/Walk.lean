import Mathlib.Data.List.Dedup
import Mathlib.Data.List.Induction
import Mathlib.Data.List.Perm.Subperm
import Mathlib.Logic.Relation

/-! # Breadth-first walks and their listings

A walk comes by the items of a queue in their turn and appends what they lead to. Only known items
lead anywhere, and every item is come by once, so the walk ends whatever cycles there are.

A listing takes down what is come by, with the extras of each. Extras are taken down unless they are
there; what is come by always is. -/

namespace Netherwick.Lib

variable {α : Type} [DecidableEq α] (known : List α) (next : α → List α)

/-- Where an item leads. -/
def follow (item : α) : List α := if known.contains item then next item else []

/-- How many known items have not been come by. -/
def unseen (seen : List α) : Nat := (known.filter fun item => !seen.contains item).length

variable {known next} {item : α} {rest seen queue : List α}

theorem unseen_cons : unseen known (item :: seen) =
    ((known.filter fun other => !seen.contains other).filter fun other => other ≠ item).length := by
  rw [unseen, List.filter_filter]
  congr 2
  funext other
  simp

theorem unseen_cons_le : unseen known (item :: seen) ≤ unseen known seen := by
  rw [unseen_cons, unseen]
  exact List.length_filter_le _ _

theorem unseen_cons_lt (hknown : item ∈ known) (hseen : ¬seen.contains item = true) :
    unseen known (item :: seen) < unseen known seen := by
  rw [unseen_cons, unseen]
  refine List.length_filter_lt_length_iff_exists.mpr ⟨item, ?_, by simp⟩
  exact List.mem_filter.mpr ⟨hknown, by simpa using hseen⟩

theorem passed_decreases :
    Prod.Lex (· < ·) (· < ·) (unseen known (item :: seen), rest.length)
      (unseen known seen, (item :: rest).length) :=
  (Nat.lt_or_eq_of_le unseen_cons_le).elim (Prod.Lex.left _ _) fun heq =>
    heq ▸ Prod.Lex.right _ (Nat.lt_succ_self _)

theorem walk_decreases (hseen : ¬seen.contains item = true) :
    Prod.Lex (· < ·) (· < ·)
      (unseen known (item :: seen), (rest ++ follow known next item).length)
      (unseen known seen, (item :: rest).length) := by
  by_cases hknown : item ∈ known
  · exact Prod.Lex.left _ _ (unseen_cons_lt hknown hseen)
  · have hnone : follow known next item = [] := by simp [follow, hknown]
    rw [hnone, List.append_nil]
    exact passed_decreases

variable (known next)

/-- The items in the order in which the walk comes by. -/
def visits (queue seen : List α) : List α :=
  match queue with
  | [] => []
  | item :: rest =>
    if _h : seen.contains item then visits rest seen
    else item :: visits (rest ++ follow known next item) (item :: seen)
termination_by (unseen known seen, queue.length)
decreasing_by
  · exact Prod.Lex.right _ (Nat.lt_succ_self _)
  · exact walk_decreases _h

/-- One item leads to another. -/
def Leads (a b : α) : Prop := b ∈ follow known next a

variable {known next}

theorem not_mem_seen_of_mem_visits (h : item ∈ visits known next queue seen) : item ∉ seen := by
  induction queue, seen using visits.induct known next with
  | case1 seen => simp [visits] at h
  | case2 seen first rest hseen ih =>
    rw [visits, dif_pos hseen] at h
    exact ih h
  | case3 seen first rest hseen ih =>
    rw [visits, dif_neg hseen] at h
    rcases List.mem_cons.mp h with rfl | h
    · simpa using hseen
    · exact fun hmem => ih h (List.mem_cons_of_mem _ hmem)

theorem nodup_visits (queue seen : List α) : (visits known next queue seen).Nodup := by
  induction queue, seen using visits.induct known next with
  | case1 seen => simp [visits]
  | case2 seen first rest hseen ih => rwa [visits, dif_pos hseen]
  | case3 seen first rest hseen ih =>
    rw [visits, dif_neg hseen]
    exact List.nodup_cons.mpr
      ⟨fun hmem => not_mem_seen_of_mem_visits hmem List.mem_cons_self, ih⟩

theorem reached_of_mem_visits (h : item ∈ visits known next queue seen) :
    ∃ start ∈ queue, Relation.ReflTransGen (Leads known next) start item := by
  induction queue, seen using visits.induct known next with
  | case1 seen => simp [visits] at h
  | case2 seen first rest hseen ih =>
    rw [visits, dif_pos hseen] at h
    obtain ⟨start, hstart, hreached⟩ := ih h
    exact ⟨start, List.mem_cons_of_mem _ hstart, hreached⟩
  | case3 seen first rest hseen ih =>
    rw [visits, dif_neg hseen] at h
    rcases List.mem_cons.mp h with rfl | h
    · exact ⟨item, List.mem_cons_self, .refl⟩
    · obtain ⟨start, hstart, hreached⟩ := ih h
      rcases List.mem_append.mp hstart with hstart | hstart
      · exact ⟨start, List.mem_cons_of_mem _ hstart, hreached⟩
      · exact ⟨first, List.mem_cons_self, .head hstart hreached⟩

theorem closed_visits (queue seen : List α) :
    (∀ start ∈ queue, start ∈ seen ∨ start ∈ visits known next queue seen) ∧
      ∀ item ∈ visits known next queue seen, ∀ goal, Leads known next item goal →
        goal ∈ seen ∨ goal ∈ visits known next queue seen := by
  induction queue, seen using visits.induct known next with
  | case1 seen => simp [visits]
  | case2 seen first rest hseen ih =>
    rw [visits, dif_pos hseen]
    refine ⟨fun start hstart => ?_, ih.2⟩
    rcases List.mem_cons.mp hstart with rfl | hstart
    · exact .inl (by simpa using hseen)
    · exact ih.1 start hstart
  | case3 seen first rest hseen ih =>
    rw [visits, dif_neg hseen]
    have hlater : ∀ goal, goal ∈ first :: seen ∨
        goal ∈ visits known next (rest ++ follow known next first) (first :: seen) →
        goal ∈ seen ∨ goal ∈ first ::
          visits known next (rest ++ follow known next first) (first :: seen) := by
      intro goal hgoal
      rw [List.mem_cons]
      rw [List.mem_cons] at hgoal
      tauto
    constructor
    · intro start hstart
      rcases List.mem_cons.mp hstart with rfl | hstart
      · exact .inr List.mem_cons_self
      · exact hlater start (ih.1 start (List.mem_append_left _ hstart))
    · intro item hitem goal hleads
      rcases List.mem_cons.mp hitem with rfl | hitem
      · exact hlater goal (ih.1 goal (List.mem_append_right _ hleads))
      · exact hlater goal (ih.2 item hitem goal hleads)

theorem mem_visits_iff {start : α} : item ∈ visits known next [start] [] ↔
    Relation.ReflTransGen (Leads known next) start item := by
  constructor
  · intro h
    obtain ⟨first, hfirst, hreached⟩ := reached_of_mem_visits h
    obtain rfl := List.mem_singleton.mp hfirst
    exact hreached
  · intro h
    induction h with
    | refl =>
      exact ((closed_visits [start] []).1 start (by simp)).resolve_left (by simp)
    | tail _ hleads ih =>
      exact ((closed_visits [start] []).2 _ ih _ hleads).resolve_left (by simp)

section Listing

variable {ν κ : Type} [DecidableEq κ] (key : ν → κ)

def enlist (listing : List ν) (extra : ν) : List ν :=
  if (listing.map key).contains (key extra) then listing else listing ++ [extra]

/-- What is come by, and after it the extras that are not there. -/
def takeDown (listing : List ν) (entry : ν × List ν) : List ν :=
  entry.2.foldl (enlist key) (listing ++ [entry.1])

def entryKeys (entry : ν × List ν) : List κ := key entry.1 :: entry.2.map key

def listingOf (entries : List (ν × List ν)) : List ν := entries.foldl (takeDown key) []

variable {key} {listing extras : List ν} {entry : ν × List ν} {entries : List (ν × List ν)}
  {limit : Nat}

theorem prefix_enlist (listing : List ν) (extra : ν) : listing <+: enlist key listing extra := by
  rw [enlist]
  split
  · exact List.prefix_rfl
  · exact List.prefix_append ..

theorem prefix_extras (extras listing : List ν) :
    listing <+: extras.foldl (enlist key) listing := by
  induction extras generalizing listing with
  | nil => exact List.prefix_rfl
  | cons extra rest ih => exact (prefix_enlist listing extra).trans (ih _)

theorem prefix_takeDown (listing : List ν) (entry : ν × List ν) :
    listing ++ [entry.1] <+: takeDown key listing entry :=
  prefix_extras ..

theorem prefix_foldl (entries : List (ν × List ν)) (listing : List ν) :
    listing <+: entries.foldl (takeDown key) listing := by
  induction entries generalizing listing with
  | nil => exact List.prefix_rfl
  | cons entry rest ih =>
    exact ((List.prefix_append ..).trans (prefix_takeDown listing entry)).trans (ih _)

theorem keys_enlist {listing : List ν} {extra : ν} {wanted : κ} :
    wanted ∈ (enlist key listing extra).map key ↔
      wanted ∈ listing.map key ∨ wanted = key extra := by
  rw [enlist]
  split
  case isTrue hthere =>
    have hmem : key extra ∈ listing.map key := by simpa using hthere
    constructor
    · exact Or.inl
    · rintro (h | rfl)
      · exact h
      · exact hmem
  case isFalse => simp

theorem nodup_enlist {extra : ν} (h : (listing.map key).Nodup) :
    ((enlist key listing extra).map key).Nodup := by
  rw [enlist]
  split
  case isTrue => exact h
  case isFalse hthere =>
    have hmem : key extra ∉ listing.map key := by simpa using hthere
    rw [List.map_append, List.map_singleton]
    exact List.nodup_append.mpr ⟨h, List.nodup_singleton _, fun _ ha _ hb heq =>
      hmem (List.mem_singleton.mp hb ▸ heq ▸ ha)⟩

theorem keys_extras {wanted : κ} : wanted ∈ (extras.foldl (enlist key) listing).map key ↔
    wanted ∈ listing.map key ∨ wanted ∈ extras.map key := by
  induction extras generalizing listing with
  | nil => simp
  | cons extra rest ih =>
    rw [List.foldl_cons, ih, keys_enlist, List.map_cons, List.mem_cons, or_assoc]

theorem nodup_extras (h : (listing.map key).Nodup) :
    ((extras.foldl (enlist key) listing).map key).Nodup := by
  induction extras generalizing listing with
  | nil => exact h
  | cons extra rest ih => exact ih (nodup_enlist h)

theorem keys_takeDown {wanted : κ} : wanted ∈ (takeDown key listing entry).map key ↔
    wanted ∈ listing.map key ∨ wanted ∈ entryKeys key entry := by
  rw [takeDown, keys_extras, List.map_append, List.mem_append, entryKeys, List.mem_cons, or_assoc]
  simp

omit [DecidableEq κ] in
theorem nodup_append_key {node : ν} : ((listing ++ [node]).map key).Nodup ↔
    (listing.map key).Nodup ∧ key node ∉ listing.map key := by
  rw [List.map_append, List.map_singleton, ← List.concat_eq_append, List.nodup_concat, and_comm]

theorem nodup_takeDown : ((takeDown key listing entry).map key).Nodup ↔
    (listing.map key).Nodup ∧ key entry.1 ∉ listing.map key := by
  rw [← nodup_append_key]
  constructor
  · intro h
    exact h.sublist ((prefix_takeDown listing entry).sublist.map key)
  · exact nodup_extras

theorem keys_foldl {wanted : κ} : wanted ∈ (entries.foldl (takeDown key) listing).map key ↔
    wanted ∈ listing.map key ∨ wanted ∈ entries.flatMap (entryKeys key) := by
  induction entries generalizing listing with
  | nil => simp
  | cons entry rest ih =>
    rw [List.foldl_cons, ih, keys_takeDown, List.flatMap_cons, List.mem_append, or_assoc]

theorem keys_listingOf {wanted : κ} : wanted ∈ (listingOf key entries).map key ↔
    wanted ∈ entries.flatMap (entryKeys key) := by
  rw [listingOf, keys_foldl]
  simp

theorem filterMap_extras {β : Type} {f : ν → Option β}
    (hextras : ∀ extra ∈ extras, f extra = none) :
    (extras.foldl (enlist key) listing).filterMap f = listing.filterMap f := by
  induction extras generalizing listing with
  | nil => rfl
  | cons extra rest ih =>
    rw [List.foldl_cons, ih fun other hother => hextras other (List.mem_cons_of_mem _ hother),
      enlist]
    split
    · rfl
    · simp [hextras extra List.mem_cons_self]

theorem filterMap_foldl {β : Type} {f : ν → Option β}
    (hextras : ∀ entry ∈ entries, ∀ extra ∈ entry.2, f extra = none) :
    (entries.foldl (takeDown key) listing).filterMap f =
      listing.filterMap f ++ entries.filterMap fun entry => f entry.1 := by
  induction entries generalizing listing with
  | nil => simp
  | cons entry rest ih =>
    rw [List.foldl_cons, ih fun other hother => hextras other (List.mem_cons_of_mem _ hother),
      takeDown, filterMap_extras (hextras entry List.mem_cons_self), List.filterMap_append,
      List.append_assoc]
    cases h : f entry.1 <;> simp [h]

theorem filterMap_listingOf {β : Type} {f : ν → Option β}
    (hextras : ∀ entry ∈ entries, ∀ extra ∈ entry.2, f extra = none) :
    (listingOf key entries).filterMap f = entries.filterMap fun entry => f entry.1 := by
  rw [listingOf, filterMap_foldl hextras, List.filterMap_nil, List.nil_append]

theorem length_listingOf (h : ((listingOf key entries).map key).Nodup) :
    (listingOf key entries).length = (entries.flatMap (entryKeys key)).dedup.length := by
  rw [← List.length_map key]
  refine (List.perm_ext_iff_of_nodup h (List.nodup_dedup _)).mpr (fun wanted => ?_) |>.length_eq
  rw [keys_listingOf, List.mem_dedup]

theorem le_length_dedup (h : (((listingOf key entries).take limit).map key).Nodup)
    (hlimit : limit ≤ (listingOf key entries).length) :
    limit ≤ (entries.flatMap (entryKeys key)).dedup.length := by
  have hlength : (((listingOf key entries).take limit).map key).length = limit := by
    rw [List.length_map, List.length_take, Nat.min_eq_left hlimit]
  rw [← hlength]
  refine (List.Nodup.subperm h fun wanted hwanted => ?_).length_le
  rw [List.mem_dedup, ← keys_listingOf]
  exact ((List.take_sublist _ _).map key).subset hwanted

/-- While there is room, nothing is come by that the listing has. -/
def NoneAgain (key : ν → κ) (limit : Nat) (entries : List (ν × List ν)) : Prop :=
  ∀ before entry after, entries = before ++ entry :: after →
    (before.flatMap (entryKeys key)).dedup.length < limit →
      key entry.1 ∉ before.flatMap (entryKeys key)

theorem noneAgain_append {more : List (ν × List ν)} : NoneAgain key limit (entries ++ more) ↔
    NoneAgain key limit entries ∧ ∀ before entry after, more = before ++ entry :: after →
      ((entries ++ before).flatMap (entryKeys key)).dedup.length < limit →
        key entry.1 ∉ (entries ++ before).flatMap (entryKeys key) := by
  constructor
  · intro h
    exact ⟨fun before other after heq => h before other (after ++ more) (by simp [heq]),
      fun before other after heq => h (entries ++ before) other after (by simp [heq])⟩
  · intro h before other after heq
    rcases List.append_eq_append_iff.mp heq with ⟨later, rfl, hmore⟩ | ⟨later, hentries, hrest⟩
    · exact h.2 later other after hmore
    · cases later with
      | nil =>
        have hsame : before = entries := by simpa using hentries.symm
        subst hsame
        simpa using h.2 [] other after (by simpa using hrest.symm)
      | cons first later =>
        obtain ⟨rfl, rfl⟩ := List.cons.inj hrest
        exact h.1 before other later hentries

theorem noneAgain_map {ι : Type} {items : List ι} {entryOf : ι → ν × List ν} :
    NoneAgain key limit (items.map entryOf) ↔
      ∀ before item after, items = before ++ item :: after →
        (before.flatMap fun item => entryKeys key (entryOf item)).dedup.length < limit →
          key (entryOf item).1 ∉ before.flatMap fun item => entryKeys key (entryOf item) := by
  constructor
  · intro h before item after heq
    simpa [List.flatMap_map] using h (before.map entryOf) (entryOf item) (after.map entryOf)
      (by simp [heq])
  · intro h before entry after heq
    obtain ⟨first, rest, rfl, rfl, hrest⟩ := List.map_eq_append_iff.mp heq
    obtain ⟨item, later, rfl, rfl, rfl⟩ := List.map_eq_cons_iff.mp hrest
    simpa [List.flatMap_map] using h first item later rfl

theorem nodup_take_listingOf : (((listingOf key entries).take limit).map key).Nodup ↔
    NoneAgain key limit entries := by
  induction entries using List.reverseRecOn with
  | nil => simp [listingOf, NoneAgain]
  | append_singleton entries entry ih =>
    have hstep : listingOf key (entries ++ [entry]) =
        takeDown key (listingOf key entries) entry := by
      simp [listingOf]
    have hstarts : listingOf key entries ++ [entry.1] <+:
        takeDown key (listingOf key entries) entry := prefix_takeDown ..
    have hlast : (∀ before other after, [entry] = before ++ other :: after →
        ((entries ++ before).flatMap (entryKeys key)).dedup.length < limit →
          key other.1 ∉ (entries ++ before).flatMap (entryKeys key)) ↔
        ((entries.flatMap (entryKeys key)).dedup.length < limit →
          key entry.1 ∉ entries.flatMap (entryKeys key)) := by
      constructor
      · intro h
        simpa using h [] entry [] rfl
      · intro h before other after heq
        obtain ⟨rfl, rfl, rfl⟩ : before = [] ∧ other = entry ∧ after = [] := by
          simpa [List.append_eq_singleton_iff, and_assoc] using heq.symm
        simpa using h
    rw [noneAgain_append, hlast, ← ih, hstep]
    rcases Nat.lt_or_ge (listingOf key entries).length limit with hroom | hfull
    · rw [List.take_of_length_le (Nat.le_of_lt hroom)]
      have hnew : (((takeDown key (listingOf key entries) entry).take limit).map key).Nodup ↔
          ((listingOf key entries).map key).Nodup ∧
            key entry.1 ∉ (listingOf key entries).map key := by
        constructor
        · intro h
          rw [← nodup_append_key]
          refine h.sublist (List.Sublist.map key (List.IsPrefix.sublist ?_))
          exact List.prefix_take_iff.mpr ⟨hstarts, by simp; omega⟩
        · intro h
          exact (nodup_takeDown.mpr h).sublist ((List.take_sublist _ _).map key)
      rw [hnew, keys_listingOf]
      refine and_congr_right fun hnodup => ?_
      rw [← length_listingOf hnodup]
      simp [hroom]
    · have hsame : (takeDown key (listingOf key entries) entry).take limit =
          (listingOf key entries).take limit := by
        obtain ⟨more, hmore⟩ := (List.prefix_append ..).trans hstarts
        rw [← hmore, List.take_append_of_le_length hfull]
      rw [hsame]
      refine (and_iff_left_of_imp fun hnodup hroom => ?_).symm
      have := le_length_dedup hnodup hfull
      omega

end Listing

end Netherwick.Lib
