import Netherwick.Observatory.ProvenanceGraph

/-! # What a provenance graph shows

Without a limit the walk's listing would be the graph. The graph is the beginning of that listing,
and it is the whole listing where nothing is omitted. Auxiliary nodes are placed unless their id is
there; the nodes of the walk and the capture gaps are placed without looking. -/

namespace Netherwick.Observatory

open Netherwick.Lib

/-- One id leads to another by the links of the mode. -/
inductive Linked (events : List BrainEvent) (mode : ProvenancePathMode) : String → String → Prop
  | cites {event : BrainEvent} {reference : TypedEventRef} (hevent : event ∈ events)
      (hmode : mode.ancestors)
      (hreference : reference ∈ event.links.parents ++ event.links.supports) :
      Linked events mode event.eventId reference.eventId
  | disputes {event : BrainEvent} {reference : TypedEventRef} (hevent : event ∈ events)
      (hmode : mode.ancestors) (hcontradictions : mode.includeContradictions)
      (hreference : reference ∈ event.links.contradicts) :
      Linked events mode event.eventId reference.eventId
  | cited {event dependent : BrainEvent} {reference : TypedEventRef} (hevent : event ∈ events)
      (hmode : mode.descendants) (hdependent : dependent ∈ events)
      (hreference : reference ∈ dependent.causalReferences)
      (hcites : reference.eventId = event.eventId) :
      Linked events mode event.eventId dependent.eventId

section Links

variable (events : List BrainEvent) (mode : ProvenancePathMode)

def linked (id : String) : List String :=
  ((byId events id).elim [] (edgesOf events mode)).map ProvenanceGraphEdge.to

/-- The ids that the centre leads to, in the order of the walk. -/
def provenanceWalk (centerId : String) : List String :=
  visits (events.map BrainEvent.eventId) (linked events mode) [centerId] []

variable {events mode} {event : BrainEvent} {id other : String}

theorem byId_eq_none : byId events id = none ↔ id ∉ events.map BrainEvent.eventId := by
  simp [byId]

theorem byId_eventId (hids : (events.map BrainEvent.eventId).Nodup) (h : event ∈ events) :
    byId events event.eventId = some event := by
  cases hfound : byId events event.eventId with
  | none => exact absurd (List.mem_map_of_mem h) (byId_eq_none.mp hfound)
  | some found =>
    rw [List.inj_on_of_nodup_map hids (mem_of_byId hfound) h (eventId_of_byId hfound)]

theorem mem_linkEdges {references : List TypedEventRef} {relation : ProvenanceEdgeKind} :
    other ∈ (linkEdges event references relation).map ProvenanceGraphEdge.to ↔
      ∃ reference ∈ references, reference.eventId = other := by
  simp [linkEdges]

theorem mem_enqueueLinks : other ∈ (enqueueLinks event mode).map ProvenanceGraphEdge.to ↔
    (∃ reference ∈ event.links.parents ++ event.links.supports, reference.eventId = other) ∨
      mode.includeContradictions ∧
        ∃ reference ∈ event.links.contradicts, reference.eventId = other := by
  simp only [enqueueLinks, List.map_append, List.mem_append, mem_linkEdges, or_and_right, exists_or]
  cases mode.includeContradictions with
  | false => simp
  | true => simp [mem_linkEdges]

theorem mem_dependents {dependent : BrainEvent} : dependent ∈ dependents events id ↔
    dependent ∈ events ∧ ∃ reference ∈ dependent.causalReferences, reference.eventId = id := by
  simp only [dependents, List.mem_flatMap, List.mem_map, List.mem_filter, decide_eq_true_eq]
  constructor
  · rintro ⟨_, hevent, reference, ⟨hreference, hid⟩, rfl⟩
    exact ⟨hevent, reference, hreference, hid⟩
  · rintro ⟨hevent, reference, hreference, hid⟩
    exact ⟨dependent, hevent, reference, ⟨hreference, hid⟩, rfl⟩

theorem mem_edgesOf : other ∈ (edgesOf events mode event).map ProvenanceGraphEdge.to ↔
    mode.ancestors ∧ other ∈ (enqueueLinks event mode).map ProvenanceGraphEdge.to ∨
      mode.descendants ∧
        ∃ dependent ∈ dependents events event.eventId, dependent.eventId = other := by
  rw [edgesOf, List.map_append, List.mem_append]
  cases mode.ancestors <;> cases mode.descendants <;> simp

theorem linked_missing (h : byId events id = none) : linked events mode id = [] := by
  simp [linked, h]

theorem linked_event (h : byId events id = some event) :
    linked events mode id = (edgesOf events mode event).map ProvenanceGraphEdge.to := by
  simp [linked, h]

theorem follow_linked : follow (events.map BrainEvent.eventId) (linked events mode) id =
    linked events mode id := by
  rw [follow]
  split
  case isTrue => rfl
  case isFalse hunknown =>
    exact (linked_missing (byId_eq_none.mpr (by simpa using hunknown))).symm

theorem leads_iff_linked (hids : (events.map BrainEvent.eventId).Nodup) :
    Leads (events.map BrainEvent.eventId) (linked events mode) id other ↔
      Linked events mode id other := by
  rw [Leads, follow_linked, linked]
  constructor
  · intro h
    cases hfound : byId events id with
    | none => simp [hfound] at h
    | some event =>
      rw [hfound, Option.elim_some, mem_edgesOf, mem_enqueueLinks] at h
      obtain rfl := eventId_of_byId hfound
      have hevent := mem_of_byId hfound
      rcases h with ⟨hmode, ⟨reference, hreference, rfl⟩ | ⟨hcontra, reference, hreference, rfl⟩⟩
        | ⟨hmode, dependent, hdependent, rfl⟩
      · exact .cites hevent hmode hreference
      · exact .disputes hevent hmode hcontra hreference
      · obtain ⟨hretained, reference, hreference, hcites⟩ := mem_dependents.mp hdependent
        exact .cited hevent hmode hretained hreference hcites
  · intro h
    cases h with
    | cites hevent hmode hreference =>
      rw [byId_eventId hids hevent, Option.elim_some, mem_edgesOf, mem_enqueueLinks]
      exact .inl ⟨hmode, .inl ⟨_, hreference, rfl⟩⟩
    | disputes hevent hmode hcontra hreference =>
      rw [byId_eventId hids hevent, Option.elim_some, mem_edgesOf, mem_enqueueLinks]
      exact .inl ⟨hmode, .inr ⟨hcontra, _, hreference, rfl⟩⟩
    | cited hevent hmode hdependent hreference hcites =>
      rw [byId_eventId hids hevent, Option.elim_some, mem_edgesOf]
      exact .inr ⟨hmode, _, mem_dependents.mpr ⟨hdependent, _, hreference, hcites⟩, rfl⟩

theorem mem_provenanceWalk (hids : (events.map BrainEvent.eventId).Nodup) {centerId : String} :
    id ∈ provenanceWalk events mode centerId ↔
      Relation.ReflTransGen (Linked events mode) centerId id := by
  have hsame : Leads (events.map BrainEvent.eventId) (linked events mode) = Linked events mode := by
    funext a b
    exact propext (leads_iff_linked hids)
  rw [provenanceWalk, mem_visits_iff, hsame]

end Links

/-- The canvas has the beginning of the listing, and all of it unless something is omitted. -/
structure Shows (maxNodes : Nat) (listing : List ProvenanceGraphNode) (canvas : Canvas) :
    Prop where
  nodes : canvas.nodes = listing.take maxNodes
  complete : canvas.omittedNodes = 0 → listing.length ≤ maxNodes

section Shows

variable {maxNodes : Nat} {listing longer : List ProvenanceGraphNode} {canvas next : Canvas}
  {node : ProvenanceGraphNode}

theorem Shows.length_le (h : Shows maxNodes listing canvas) : canvas.nodes.length ≤ maxNodes := by
  rw [h.nodes]
  exact List.length_take_le ..

theorem Shows.listing_lt (h : Shows maxNodes listing canvas)
    (hroom : canvas.nodes.length ≠ maxNodes) : listing.length < maxNodes := by
  rw [h.nodes, List.length_take] at hroom
  omega

theorem Shows.eq_listing (h : Shows maxNodes listing canvas) (hfits : listing.length ≤ maxNodes) :
    canvas.nodes = listing := by
  rw [h.nodes, List.take_of_length_le hfits]

theorem Shows.placed (h : Shows maxNodes listing canvas) (hroom : canvas.nodes.length ≠ maxNodes)
    (hnodes : next.nodes = canvas.nodes ++ [node]) : Shows maxNodes (listing ++ [node]) next := by
  have hshort := h.listing_lt hroom
  have hfits : (listing ++ [node]).length ≤ maxNodes := by
    simp
    omega
  constructor
  · rw [hnodes, h.eq_listing (Nat.le_of_lt hshort), List.take_of_length_le hfits]
  · exact fun _ => hfits

theorem Shows.full (h : Shows maxNodes listing canvas) (hfull : canvas.nodes.length = maxNodes)
    (hnodes : next.nodes = canvas.nodes) (homitted : 0 < next.omittedNodes)
    (hlonger : listing <+: longer) : Shows maxNodes longer next := by
  obtain ⟨more, rfl⟩ := hlonger
  constructor
  · have hlong : maxNodes ≤ listing.length := by
      rw [h.nodes, List.length_take] at hfull
      omega
    rw [hnodes, h.nodes, List.take_append_of_le_length hlong]
  · omega

theorem Shows.appendAuxiliary {event : BrainEvent} {auxiliary : Auxiliary}
    (h : Shows maxNodes listing canvas) :
    Shows maxNodes (enlist ProvenanceGraphNode.id listing auxiliary.node)
      (canvas.appendAuxiliary event maxNodes auxiliary) := by
  rw [Canvas.appendAuxiliary]
  by_cases hthere : (canvas.nodes.map ProvenanceGraphNode.id).contains auxiliary.id
  · have hlisted : (listing.map ProvenanceGraphNode.id).contains auxiliary.node.id := by
      rw [List.contains_iff_mem, h.nodes] at hthere
      rw [List.contains_iff_mem]
      exact ((List.take_sublist _ _).map _).subset hthere
    rw [if_pos hthere, enlist, if_pos hlisted]
    exact ⟨h.nodes, h.complete⟩
  · rw [if_neg hthere]
    by_cases hroom : canvas.nodes.length < maxNodes
    · have heq := h.eq_listing (Nat.le_of_lt (h.listing_lt (Nat.ne_of_lt hroom)))
      have hunlisted : ¬(listing.map ProvenanceGraphNode.id).contains auxiliary.node.id := by
        rw [← heq]
        exact hthere
      rw [if_pos hroom, enlist, if_neg hunlisted]
      exact h.placed (Nat.ne_of_lt hroom) rfl
    · rw [if_neg hroom]
      have hfull : canvas.nodes.length = maxNodes :=
        Nat.le_antisymm h.length_le (Nat.le_of_not_lt hroom)
      exact h.full hfull rfl (Nat.succ_pos _) (prefix_enlist ..)

theorem Shows.appendAuxiliaries {event : BrainEvent} {added : List Auxiliary}
    (h : Shows maxNodes listing canvas) :
    Shows maxNodes ((added.map Auxiliary.node).foldl (enlist ProvenanceGraphNode.id) listing)
      (added.foldl (Canvas.appendAuxiliary event maxNodes) canvas) := by
  induction added generalizing listing canvas with
  | nil => exact h
  | cons auxiliary rest ih => exact ih h.appendAuxiliary

end Shows

section Walk

variable (lowercase : String → String) (events : List BrainEvent) (query : ProvenanceGraphRequest)

def walkEntry (id : String) : ProvenanceGraphNode × List ProvenanceGraphNode :=
  match byId events id with
  | none => (missingNode id, [])
  | some event => (eventNode event, (auxiliaries lowercase query event).map Auxiliary.node)

variable {lowercase events query} {maxNodes : Nat} {queue seen : List String} {canvas : Canvas}
  {listing : List ProvenanceGraphNode}

theorem walkEntry_missing {id : String} (h : byId events id = none) :
    walkEntry lowercase events query id = (missingNode id, []) := by
  rw [walkEntry, h]

theorem walkEntry_event {id : String} {event : BrainEvent} (h : byId events id = some event) :
    walkEntry lowercase events query id =
      (eventNode event, (auxiliaries lowercase query event).map Auxiliary.node) := by
  rw [walkEntry, h]

theorem expand_missing {id : String} {rest : List String} (hseen : ¬seen.contains id = true)
    (hroom : ¬canvas.nodes.length = maxNodes) (hmissing : byId events id = none) :
    expand lowercase events query maxNodes (id :: rest) seen canvas =
      expand lowercase events query maxNodes rest (id :: seen) (canvas.placeMissing id) := by
  rw [expand, dif_neg hseen, if_neg hroom]
  split
  case h_1 => rfl
  case h_2 event hfound => simp [hmissing] at hfound

theorem expand_event {id : String} {rest : List String} {event : BrainEvent}
    (hseen : ¬seen.contains id = true) (hroom : ¬canvas.nodes.length = maxNodes)
    (hfound : byId events id = some event) :
    expand lowercase events query maxNodes (id :: rest) seen canvas =
      expand lowercase events query maxNodes
        (rest ++ (edgesOf events query.mode event).map ProvenanceGraphEdge.to) (id :: seen)
        (canvas.placeEvent lowercase events query maxNodes event) := by
  rw [expand, dif_neg hseen, if_neg hroom]
  split
  case h_1 hmissing => simp [hfound] at hmissing
  case h_2 other hother =>
    obtain rfl := Option.some.inj (hother.symm.trans hfound)
    rfl

theorem expand_full (hfull : canvas.nodes.length = maxNodes) :
    (expand lowercase events query maxNodes queue seen canvas).nodes = canvas.nodes ∧
      canvas.omittedNodes ≤
        (expand lowercase events query maxNodes queue seen canvas).omittedNodes := by
  induction queue, seen, canvas using expand.induct lowercase events query maxNodes with
  | case1 seen canvas => simp [expand]
  | case2 seen canvas id rest hseen ih =>
    rw [expand, dif_pos hseen]
    exact ih hfull
  | case3 seen canvas id rest hseen _ ih =>
    rw [expand, dif_neg hseen, if_pos hfull]
    exact ⟨(ih hfull).1, Nat.le_trans (Nat.le_succ _) (ih hfull).2⟩
  | case4 seen canvas id rest hseen hroom => exact absurd hfull hroom
  | case5 seen canvas id rest hseen hroom => exact absurd hfull hroom

theorem Shows.expand (h : Shows maxNodes listing canvas) :
    Shows maxNodes
      (((visits (events.map BrainEvent.eventId) (linked events query.mode) queue seen).map
        (walkEntry lowercase events query)).foldl (takeDown ProvenanceGraphNode.id) listing)
      (expand lowercase events query maxNodes queue seen canvas) := by
  induction queue, seen, canvas using expand.induct lowercase events query maxNodes
    generalizing listing with
  | case1 seen canvas => simpa [Observatory.expand, visits] using h
  | case2 seen canvas id rest hseen ih =>
    rw [Observatory.expand, dif_pos hseen, visits, dif_pos hseen]
    exact ih h
  | case3 seen canvas id rest hseen hfull ih =>
    rw [Observatory.expand, dif_neg hseen, if_pos hfull]
    have hkept : canvas.leaveOut.nodes.length = maxNodes := hfull
    obtain ⟨hnodes, homitted⟩ := @expand_full lowercase events query maxNodes rest (id :: seen)
      canvas.leaveOut hkept
    exact h.full hfull hnodes (Nat.lt_of_lt_of_le (Nat.succ_pos _) homitted) (prefix_foldl ..)
  | case4 seen canvas id rest hseen hroom hmissing ih =>
    rw [expand_missing hseen hroom hmissing, visits, dif_neg hseen, follow_linked,
      linked_missing hmissing, List.append_nil, List.map_cons, List.foldl_cons]
    refine ih ?_
    rw [takeDown, walkEntry_missing hmissing]
    exact h.placed hroom rfl
  | case5 seen canvas id rest hseen hroom event hfound ih =>
    rw [expand_event hseen hroom hfound, visits, dif_neg hseen, follow_linked,
      linked_event hfound, List.map_cons, List.foldl_cons]
    refine ih ?_
    rw [takeDown, walkEntry_event hfound]
    exact (h.placed hroom rfl).appendAuxiliaries

theorem walkEntry_extras {id : String} {extra : ProvenanceGraphNode}
    (h : extra ∈ (walkEntry lowercase events query id).2) :
    ∃ event, byId events id = some event ∧
      ∃ auxiliary ∈ auxiliaries lowercase query event, auxiliary.node = extra := by
  cases hfound : byId events id with
  | none => simp [walkEntry_missing hfound] at h
  | some event => exact ⟨event, rfl, by simpa [walkEntry_event hfound] using h⟩

end Walk

section Gaps

variable {centerId : String} {maxNodes : Nat} {listing longer : List ProvenanceGraphNode}
  {canvas : GapCanvas} {gaps : List BrainEvent}

theorem placeGaps_full (hfull : canvas.nodes.length = maxNodes) :
    (gaps.foldl (GapCanvas.placeGap centerId maxNodes) canvas).nodes = canvas.nodes ∧
      canvas.omittedNodes ≤
        (gaps.foldl (GapCanvas.placeGap centerId maxNodes) canvas).omittedNodes := by
  induction gaps generalizing canvas with
  | nil => exact ⟨rfl, Nat.le_refl _⟩
  | cons gap rest ih =>
    rw [List.foldl_cons, GapCanvas.placeGap, if_pos hfull]
    have hkept : (canvas.leaveOut).nodes.length = maxNodes := hfull
    obtain ⟨hnodes, homitted⟩ := @ih { canvas with toCanvas := canvas.leaveOut } hkept
    exact ⟨hnodes, Nat.le_trans (Nat.le_succ _) homitted⟩

theorem Shows.placeGaps (h : Shows maxNodes listing canvas.toCanvas) :
    Shows maxNodes (listing ++ gaps.map gapNode)
      (gaps.foldl (GapCanvas.placeGap centerId maxNodes) canvas).toCanvas := by
  induction gaps generalizing listing canvas with
  | nil => simpa using h
  | cons gap rest ih =>
    rw [List.map_cons, List.append_cons, List.foldl_cons]
    refine ih ?_
    rw [GapCanvas.placeGap]
    split
    case isTrue hfull => exact h.full hfull rfl (Nat.succ_pos _) (List.prefix_append ..)
    case isFalse hroom => exact h.placed hroom rfl

def gapEntry (gap : BrainEvent) : ProvenanceGraphNode × List ProvenanceGraphNode :=
  (gapNode gap, [])

theorem foldl_gapEntries : (gaps.map gapEntry).foldl (takeDown ProvenanceGraphNode.id) listing =
    listing ++ gaps.map gapNode := by
  induction gaps generalizing listing with
  | nil => simp
  | cons gap rest ih =>
    rw [List.map_cons, List.foldl_cons, ih]
    simp [takeDown, gapEntry]

end Gaps

section Graph

variable (lowercase : String → String) (events : List BrainEvent) (centerId : String)
  (query : ProvenanceGraphRequest) (maxNodes : Nat)

def walkedTimes : List Nat :=
  ((provenanceWalk events query.mode centerId).filterMap (byId events)).map
    fun event => event.times.occurred.tMs

def captureGaps : List BrainEvent := gapsWithin (walkedTimes events centerId query) events

def walkEntries : List (ProvenanceGraphNode × List ProvenanceGraphNode) :=
  (provenanceWalk events query.mode centerId).map (walkEntry lowercase events query)

def graphEntries : List (ProvenanceGraphNode × List ProvenanceGraphNode) :=
  walkEntries lowercase events centerId query ++ (captureGaps events centerId query).map gapEntry

def graphListing : List ProvenanceGraphNode :=
  listingOf ProvenanceGraphNode.id (graphEntries lowercase events centerId query)

variable {lowercase events centerId query maxNodes}

theorem graphListing_eq : graphListing lowercase events centerId query =
    listingOf ProvenanceGraphNode.id (walkEntries lowercase events centerId query) ++
      (captureGaps events centerId query).map gapNode := by
  rw [graphListing, graphEntries, listingOf, List.foldl_append, foldl_gapEntries, listingOf]

theorem listing_times :
    (listingOf ProvenanceGraphNode.id (walkEntries lowercase events centerId query)).filterMap
      ProvenanceGraphNode.occurredAtMs = walkedTimes events centerId query := by
  rw [filterMap_listingOf]
  · rw [walkedTimes, walkEntries, List.filterMap_map, List.map_filterMap]
    congr 1
    funext id
    cases hfound : byId events id with
    | none => simp [walkEntry_missing hfound, missingNode]
    | some event => simp [walkEntry_event hfound, eventNode]
  · intro entry hentry extra hextra
    obtain ⟨id, _, rfl⟩ := List.mem_map.mp hentry
    obtain ⟨_, _, auxiliary, _, rfl⟩ := walkEntry_extras hextra
    rfl

theorem shows_layOut : Shows maxNodes (graphListing lowercase events centerId query)
    (layOut lowercase events centerId query maxNodes).toCanvas := by
  have hwalk : Shows maxNodes
      (listingOf ProvenanceGraphNode.id (walkEntries lowercase events centerId query))
      (expand lowercase events query maxNodes [centerId] [] {}) :=
    Shows.expand ⟨by simp, by simp⟩
  rw [graphListing_eq, layOut]
  by_cases hfits : (listingOf ProvenanceGraphNode.id
      (walkEntries lowercase events centerId query)).length ≤ maxNodes
  · rw [hwalk.eq_listing hfits, listing_times]
    exact Shows.placeGaps hwalk
  · have hfull : (expand lowercase events query maxNodes [centerId] [] {}).nodes.length =
        maxNodes := by
      rw [hwalk.nodes, List.length_take]
      omega
    have homitted : (expand lowercase events query maxNodes [centerId] [] {}).omittedNodes ≠ 0 :=
      fun hzero => hfits (hwalk.complete hzero)
    obtain ⟨hnodes, hstill⟩ := @placeGaps_full centerId maxNodes
      { expand lowercase events query maxNodes [centerId] [] {} with } (gapsWithin
        ((expand lowercase events query maxNodes [centerId] [] {}).nodes.filterMap
          ProvenanceGraphNode.occurredAtMs) events) hfull
    exact hwalk.full hfull hnodes (Nat.lt_of_lt_of_le (Nat.pos_of_ne_zero homitted) hstill)
      (List.prefix_append ..)

def ProvenanceGraphNode.walkedId (node : ProvenanceGraphNode) : Option String :=
  if node.nodeKind = .event ∨ node.nodeKind = .missingReference then some node.id else none

theorem walkedId_auxiliary {event : BrainEvent} {auxiliary : Auxiliary}
    (h : auxiliary ∈ auxiliaries lowercase query event) : auxiliary.node.walkedId = none := by
  have hkind : auxiliary.nodeKind ≠ .event ∧ auxiliary.nodeKind ≠ .missingReference := by
    simp only [auxiliaries, List.mem_append] at h
    rcases h with (h | h) | h
    · split at h
      · obtain ⟨artifact, _, hshown⟩ := List.mem_filterMap.mp h
        cases hkind : artifact.kind <;> simp [artifactAuxiliary, hkind] at hshown <;>
          simp [← hshown]
      · simp at h
    · obtain ⟨epoch, _, rfl⟩ := List.mem_map.mp h
      simp [epochAuxiliary]
    · split at h
      · cases hpayload : event.payload <;> simp [assetAuxiliaries, hpayload] at h
        simp [h]
      · simp at h
  simp [ProvenanceGraphNode.walkedId, Auxiliary.node, hkind]

theorem listing_walkedIds : (graphListing lowercase events centerId query).filterMap
    ProvenanceGraphNode.walkedId = provenanceWalk events query.mode centerId := by
  rw [graphListing_eq, List.filterMap_append, filterMap_listingOf]
  · have hgaps : ((captureGaps events centerId query).map gapNode).filterMap
        ProvenanceGraphNode.walkedId = [] := by
      simp [List.filterMap_map, ProvenanceGraphNode.walkedId, gapNode]
    have hwalked : ∀ id, (walkEntry lowercase events query id).1.walkedId = some id := by
      intro id
      cases hfound : byId events id with
      | none => simp [walkEntry_missing hfound, ProvenanceGraphNode.walkedId, missingNode]
      | some event =>
        simp [walkEntry_event hfound, ProvenanceGraphNode.walkedId, eventNode,
          eventId_of_byId hfound]
    rw [hgaps, List.append_nil, walkEntries, List.filterMap_map]
    simp [hwalked]
  · intro entry hentry extra hextra
    obtain ⟨id, _, rfl⟩ := List.mem_map.mp hentry
    obtain ⟨_, _, auxiliary, hauxiliary, rfl⟩ := walkEntry_extras hextra
    exact walkedId_auxiliary hauxiliary

structure WellFormed (events : List BrainEvent) (centerId : String)
    (query : ProvenanceGraphRequest) (maxNodes : Nat) (response : ProvenanceGraphResponse) :
    Prop where
  bounded : response.nodes.length ≤ maxNodes
  distinct : (response.nodes.map ProvenanceGraphNode.id).Nodup
  centred : centerId ∈ response.nodes.map ProvenanceGraphNode.id
  joined : ∀ edge ∈ response.edges, edge.from ∈ response.nodes.map ProvenanceGraphNode.id ∧
    edge.to ∈ response.nodes.map ProvenanceGraphNode.id
  reached : response.truncated = false → ∀ id,
    id ∈ response.nodes.filterMap ProvenanceGraphNode.walkedId ↔
      Relation.ReflTransGen (Linked events query.mode) centerId id

theorem joined_joinedEdges {nodes : List ProvenanceGraphNode} {edges : List ProvenanceGraphEdge}
    {edge : ProvenanceGraphEdge} (h : edge ∈ joinedEdges nodes edges) :
    edge.from ∈ nodes.map ProvenanceGraphNode.id ∧ edge.to ∈ nodes.map ProvenanceGraphNode.id := by
  have hsorted := (List.destutter_sublist _ _).subset h
  rw [List.mem_mergeSort, List.mem_filter] at hsorted
  simpa only [Bool.and_eq_true, List.contains_iff_mem] using hsorted.2

variable (lowercase events centerId query maxNodes)

/-- The ids of the nodes that are placed behind an id. -/
def auxiliaryIds (id : String) : List String :=
  ((byId events id).elim [] (auxiliaries lowercase query)).map Auxiliary.id

def claimedIds (id : String) : List String := id :: auxiliaryIds lowercase events query id

/-- While there is room, the walk comes by no id that was placed behind another before, and no
capture gap has an id that the walk takes. -/
structure Apart : Prop where
  walked : ∀ before id after, provenanceWalk events query.mode centerId = before ++ id :: after →
    (before.flatMap (claimedIds lowercase events query)).dedup.length < maxNodes →
    ∀ earlier ∈ before, id ∉ auxiliaryIds lowercase events query earlier
  gaps : ∀ before gap after, captureGaps events centerId query = before ++ gap :: after →
    ((provenanceWalk events query.mode centerId).flatMap (claimedIds lowercase events query)
      ++ before.map BrainEvent.eventId).dedup.length < maxNodes →
    gap.eventId ∉
      (provenanceWalk events query.mode centerId).flatMap (claimedIds lowercase events query)

variable {lowercase events centerId query maxNodes}

theorem entryKeys_walkEntry {id : String} :
    entryKeys ProvenanceGraphNode.id (walkEntry lowercase events query id) =
      claimedIds lowercase events query id := by
  cases hfound : byId events id with
  | none =>
    simp [entryKeys, walkEntry_missing hfound, claimedIds, auxiliaryIds, hfound, missingNode]
  | some event =>
    simp [entryKeys, walkEntry_event hfound, claimedIds, auxiliaryIds, hfound, eventNode,
      eventId_of_byId hfound, Function.comp_def, Auxiliary.node]

theorem id_walkEntry {id : String} : (walkEntry lowercase events query id).1.id = id := by
  have hkeys := @entryKeys_walkEntry lowercase events query id
  exact (List.cons.inj hkeys).1

theorem nodup_captureGaps (hids : (events.map BrainEvent.eventId).Nodup) :
    ((captureGaps events centerId query).map BrainEvent.eventId).Nodup :=
  hids.sublist (List.filter_sublist.map _)

theorem keys_gapEntries {gaps : List BrainEvent} :
    (gaps.map gapEntry).flatMap (entryKeys ProvenanceGraphNode.id) =
      gaps.map BrainEvent.eventId := by
  induction gaps with
  | nil => rfl
  | cons gap rest ih => simp [ih, entryKeys, gapEntry, gapNode, eventNode]

theorem keys_walkEntries {ids : List String} :
    (ids.map (walkEntry lowercase events query)).flatMap (entryKeys ProvenanceGraphNode.id) =
      ids.flatMap (claimedIds lowercase events query) := by
  simp [List.flatMap_map, entryKeys_walkEntry]

theorem noneAgain_walk : NoneAgain ProvenanceGraphNode.id maxNodes
      (walkEntries lowercase events centerId query) ↔
    ∀ before id after, provenanceWalk events query.mode centerId = before ++ id :: after →
      (before.flatMap (claimedIds lowercase events query)).dedup.length < maxNodes →
      ∀ earlier ∈ before, id ∉ auxiliaryIds lowercase events query earlier := by
  rw [walkEntries, noneAgain_map]
  simp only [entryKeys_walkEntry, id_walkEntry]
  constructor
  · intro h before id after heq hroom earlier hearlier hmem
    exact h before id after heq hroom
      (List.mem_flatMap.mpr ⟨earlier, hearlier, List.mem_cons_of_mem _ hmem⟩)
  · intro h before id after heq hroom hmem
    obtain ⟨earlier, hearlier, hclaimed⟩ := List.mem_flatMap.mp hmem
    rcases List.mem_cons.mp hclaimed with rfl | haux
    · have hnodup : (before ++ id :: after).Nodup := heq ▸ nodup_visits _ _
      exact (List.nodup_append.mp hnodup).2.2 id hearlier id List.mem_cons_self rfl
    · exact h before id after heq hroom earlier hearlier haux

theorem noneAgain_iff_apart (hids : (events.map BrainEvent.eventId).Nodup) :
    NoneAgain ProvenanceGraphNode.id maxNodes (graphEntries lowercase events centerId query) ↔
      Apart lowercase events centerId query maxNodes := by
  have hgaps : NoneAgain ProvenanceGraphNode.id maxNodes
      (graphEntries lowercase events centerId query) ↔ NoneAgain ProvenanceGraphNode.id maxNodes
        (walkEntries lowercase events centerId query) ∧
      ∀ (before : List BrainEvent) (gap : BrainEvent) (after : List BrainEvent),
        captureGaps events centerId query = before ++ gap :: after →
        ((provenanceWalk events query.mode centerId).flatMap (claimedIds lowercase events query)
          ++ before.map BrainEvent.eventId).dedup.length < maxNodes →
        gap.eventId ∉ (provenanceWalk events query.mode centerId).flatMap
          (claimedIds lowercase events query) := by
    rw [graphEntries, noneAgain_append]
    refine and_congr_right fun _ => ?_
    constructor
    · intro h before gap after heq hroom hmem
      refine h (before.map gapEntry) (gapEntry gap) (after.map gapEntry) (by simp [heq]) ?_ ?_
      · rwa [List.flatMap_append, walkEntries, keys_walkEntries, keys_gapEntries]
      · rw [List.flatMap_append, walkEntries, keys_walkEntries, List.mem_append]
        exact .inl hmem
    · intro h before entry after heq hroom hmem
      obtain ⟨first, rest, hsplit, rfl, hrest⟩ := List.map_eq_append_iff.mp heq
      obtain ⟨gap, later, rfl, rfl, rfl⟩ := List.map_eq_cons_iff.mp hrest
      rw [List.flatMap_append, walkEntries, keys_walkEntries, keys_gapEntries] at hroom hmem
      rcases List.mem_append.mp hmem with hclaimed | hearlier
      · exact h first gap later hsplit hroom hclaimed
      · have hnodup := @nodup_captureGaps events centerId query hids
        rw [hsplit, List.map_append, List.map_cons] at hnodup
        exact (List.nodup_append.mp hnodup).2.2 _ hearlier _ List.mem_cons_self rfl
  rw [hgaps, noneAgain_walk]
  exact ⟨fun h => ⟨h.1, h.2⟩, fun h => ⟨h.walked, h.gaps⟩⟩

theorem head_graphListing :
    [(walkEntry lowercase events query centerId).1] <+:
      graphListing lowercase events centerId query := by
  have hwalk : ∃ rest, provenanceWalk events query.mode centerId = centerId :: rest := by
    rw [provenanceWalk, visits, dif_neg (by simp)]
    exact ⟨_, rfl⟩
  obtain ⟨rest, hrest⟩ := hwalk
  rw [graphListing_eq, walkEntries, hrest, List.map_cons, listingOf, List.foldl_cons]
  exact ((prefix_takeDown [] _).trans (prefix_foldl _ _)).trans (List.prefix_append ..)

theorem checkedMaxNodes_pos (h : query.checkedMaxNodes = .ok maxNodes) : 0 < maxNodes := by
  rw [ProvenanceGraphQuery.checkedMaxNodes] at h
  split at h
  case isTrue => cases h
  case isFalse hvalid =>
    cases h
    omega

/-- A graph is well formed exactly if the ids that the walk, the auxiliaries and the capture gaps
bring are apart. -/
theorem buildProvenanceGraph_wellFormed_iff (lowercase : String → String)
    (events : List BrainEvent) (hids : (events.map BrainEvent.eventId).Nodup) (centerId : String)
    (hcenter : centerId ∈ events.map BrainEvent.eventId) (query : ProvenanceGraphRequest)
    (maxNodes : Nat) (hlimit : query.checkedMaxNodes = .ok maxNodes) :
    ∃ response, buildProvenanceGraph lowercase events centerId query = .ok response ∧
      (WellFormed events centerId query maxNodes response ↔
        Apart lowercase events centerId query maxNodes) := by
  have hshows := @shows_layOut lowercase events centerId query maxNodes
  have hretained : ¬(byId events centerId).isNone = true := by
    rw [Option.isNone_iff_eq_none, byId_eq_none]
    exact not_not.mpr hcenter
  refine ⟨_, by rw [buildProvenanceGraph, hlimit]; exact if_neg hretained, ?_⟩
  rw [← noneAgain_iff_apart hids, ← nodup_take_listingOf, ← graphListing, ← hshows.nodes]
  constructor
  · exact fun h => h.distinct
  · intro hdistinct
    refine ⟨hshows.length_le, hdistinct, ?_, fun edge hedge => joined_joinedEdges hedge, ?_⟩
    · have hhead : [(walkEntry lowercase events query centerId).1] <+:
          (layOut lowercase events centerId query maxNodes).nodes := by
        rw [hshows.nodes]
        exact List.prefix_take_iff.mpr ⟨head_graphListing, checkedMaxNodes_pos hlimit⟩
      have hmem := List.mem_map_of_mem (f := ProvenanceGraphNode.id)
        (hhead.subset List.mem_cons_self)
      rwa [id_walkEntry] at hmem
    · intro hwhole id
      have hnone : (layOut lowercase events centerId query maxNodes).omittedNodes = 0 := by
        simpa using hwhole
      rw [hshows.eq_listing (hshows.complete hnone), listing_walkedIds, mem_provenanceWalk hids]

end Graph

def lostFrames : BrainEvent where
  eventId := "lost-frames"
  eventType := .transportGap
  kind := "capture.gap"
  producer := { brain := .motherbrain, component := "observatory" }
  times := { occurred := { tMs := 40 }, observed := { tMs := 41 } }

/-- A belief and the evidence that it rests on, which refers back to it and to what is gone. -/
def evidenceLoop : List BrainEvent :=
  [{ lostFrames with
      eventId := "scan"
      eventType := .evidence
      links := { parents := [⟨"belief", .beliefUpdate⟩, ⟨"odometry", .evidence⟩] }
      calibrationEpochs := ["imu-3"] },
    { lostFrames with
      eventId := "belief"
      eventType := .beliefUpdate
      links := { supports := [⟨"scan", .evidence⟩] } }]

/-- The hypotheses hold of a cyclic history with a dangling reference. -/
theorem evidenceLoop_graph :
    ∃ response, buildProvenanceGraph id evidenceLoop "belief" {} = .ok response ∧
      (WellFormed evidenceLoop "belief" {} 80 response ↔ Apart id evidenceLoop "belief" {} 80) :=
  buildProvenanceGraph_wellFormed_iff id evidenceLoop (by decide) "belief" (by decide) {} 80 rfl

/-- The gap at the centre is placed by the walk, and once more among the gaps of its own time. -/
theorem lostFrames_placed_twice :
    ([lostFrames].map BrainEvent.eventId).Nodup ∧
      "lost-frames" ∈ [lostFrames].map BrainEvent.eventId ∧
      ({} : ProvenanceGraphRequest).checkedMaxNodes = .ok 80 ∧
      ∃ response, buildProvenanceGraph id [lostFrames] "lost-frames" {} = .ok response ∧
        response.nodes.map ProvenanceGraphNode.id = ["lost-frames", "lost-frames"] ∧
        ¬WellFormed [lostFrames] "lost-frames" {} 80 response := by
  have hfound : byId [lostFrames] "lost-frames" = some lostFrames := rfl
  have hwalk : expand id [lostFrames] {} 80 ["lost-frames"] [] {} =
      { nodes := [eventNode lostFrames] } := by
    have hedges : edgesOf [lostFrames] ({} : ProvenanceGraphRequest).mode lostFrames = [] := rfl
    rw [expand_event (by simp) (by simp) hfound, hedges, List.map_nil, List.append_nil, expand]
    rfl
  have hnodes : (layOut id [lostFrames] "lost-frames" {} 80).nodes.map ProvenanceGraphNode.id =
      ["lost-frames", "lost-frames"] := by
    rw [layOut, hwalk]
    decide
  refine ⟨by decide, by decide, rfl, _, rfl, hnodes, fun h => ?_⟩
  have hdistinct : ((layOut id [lostFrames] "lost-frames" {} 80).nodes.map
      ProvenanceGraphNode.id).Nodup := h.distinct
  simp [hnodes] at hdistinct

end Netherwick.Observatory
