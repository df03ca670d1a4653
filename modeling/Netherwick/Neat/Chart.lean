import Netherwick.Neat.Genome
import Netherwick.Lib.Growth
import Mathlib.Tactic.Linarith

/-! # What the tracker knows of a genome

The tracker alone says where every node of every genome stands: a hidden node is the one that splits
an innovation, and an innovation is one connection key, so its layer is the midpoint of the key's
ends. `Charted` reads kind and layer of a node off the tracker; in a sound tracker it gives one
answer, and as the tracker grows the answer stays. A genome fits the tracker when its nodes are
charted and its connections numbered there. -/

namespace Netherwick.Neat

open Netherwick.Lib

/-- A tracker grows: it forgets no number. -/
instance : Preorder InnovationTracker where
  le t t' := t.connections ⊆ t'.connections ∧ t.splitNodes ⊆ t'.splitNodes
  le_refl t := ⟨List.Subset.refl _, List.Subset.refl _⟩
  le_trans _ _ _ h h' := ⟨fun _ hmem => h'.1 (h.1 hmem), fun _ hmem => h'.2 (h.2 hmem)⟩

section Chart

variable (inputs outputs : Nat)

inductive Charted (t : InnovationTracker) : Nat → NodeKind → ℚ → Prop
  | input {id : Nat} (h : id < inputs) : Charted t id .input 0
  | bias : Charted t inputs .bias 0
  | output {index : Nat} (h : index < outputs) : Charted t (inputs + 1 + index) .output 1
  | hidden {innovation id a b : Nat} {ka kb : NodeKind} {la lb : ℚ}
      (hsplit : (innovation, id) ∈ t.splitNodes)
      (hkey : ((a, b, false), innovation) ∈ t.connections)
      (ha : Charted t a ka la) (hb : Charted t b kb lb) :
      Charted t id .hidden ((la + lb) * (1 / 2))

/-- A key may be numbered: it enters no input and no bias, and goes up unless it is recurrent. -/
def KeyCharted (t : InnovationTracker) (key : ConnectionKey) : Prop :=
  ∃ ka kb la lb, Charted inputs outputs t key.1 ka la ∧ Charted inputs outputs t key.2.1 kb lb ∧
    kb.isSource = false ∧ (key.2.2 = false → la < lb)

structure InnovationTracker.Sound (t : InnovationTracker) : Prop where
  innovation_lt : ∀ entry ∈ t.connections, entry.2 < t.nextInnovation
  keys_nodup : (t.connections.map Prod.fst).Nodup
  innovations_nodup : (t.connections.map Prod.snd).Nodup
  firstHidden_le : inputs + outputs + 1 ≤ t.nextNodeId
  id_range : ∀ entry ∈ t.splitNodes, inputs + outputs + 1 ≤ entry.2 ∧ entry.2 < t.nextNodeId
  ids_nodup : (t.splitNodes.map Prod.snd).Nodup
  keys_charted : ∀ entry ∈ t.connections, KeyCharted inputs outputs t entry.1
  splits_keyed : ∀ entry ∈ t.splitNodes, ∃ a b, ((a, b, false), entry.1) ∈ t.connections

variable {inputs outputs} {t t' : InnovationTracker}

theorem Charted.lasts {id : Nat} {kind : NodeKind} {layer : ℚ}
    (h : Charted inputs outputs t id kind layer) (hle : t ≤ t') :
    Charted inputs outputs t' id kind layer := by
  induction h with
  | input h => exact .input h
  | bias => exact .bias
  | output h => exact .output h
  | hidden hsplit hkey _ _ iha ihb => exact .hidden (hle.2 hsplit) (hle.1 hkey) iha ihb

theorem KeyCharted.lasts {key : ConnectionKey} (h : KeyCharted inputs outputs t key) (hle : t ≤ t') :
    KeyCharted inputs outputs t' key := by
  obtain ⟨ka, kb, la, lb, ha, hb, hkind, hlayer⟩ := h
  exact ⟨ka, kb, la, lb, ha.lasts hle, hb.lasts hle, hkind, hlayer⟩

theorem eq_of_snd_nodup {α β : Type} {l : List (α × β)} (h : (l.map Prod.snd).Nodup) {a a' : α} {b : β}
    (ha : (a, b) ∈ l) (ha' : (a', b) ∈ l) : a = a' := by
  have heq : (a, b) = (a', b) := List.inj_on_of_nodup_map h ha ha' rfl
  exact (Prod.mk.inj heq).1

theorem mem_of_lookup {α β : Type} [BEq α] [LawfulBEq α] {l : List (α × β)} {a : α} {b : β}
    (h : l.lookup a = some b) : (a, b) ∈ l := by
  obtain ⟨before, after, rfl, -⟩ := List.lookup_eq_some_iff.mp h
  simp

theorem lookup_isSome_of_mem {α β : Type} [BEq α] [LawfulBEq α] {l : List (α × β)} {a : α} {b : β}
    (h : (a, b) ∈ l) : (l.lookup a).isSome := by
  by_contra hnone
  have hne := List.lookup_eq_none_iff.mp (Option.not_isSome_iff_eq_none.mp hnone) _ h
  simp at hne

theorem lookup_of_mem {α β : Type} [BEq α] [LawfulBEq α] {l : List (α × β)} {a : α} {b : β}
    (hkeys : (l.map Prod.fst).Nodup) (h : (a, b) ∈ l) : l.lookup a = some b := by
  obtain ⟨b', hfound⟩ := Option.isSome_iff_exists.mp (lookup_isSome_of_mem h)
  have heq : (a, b') = (a, b) := List.inj_on_of_nodup_map hkeys (mem_of_lookup hfound) h rfl
  rw [hfound, (Prod.mk.inj heq).2]

namespace InnovationTracker.Sound

variable (hs : t.Sound inputs outputs)
include hs

theorem key_unique {key key' : ConnectionKey} {innovation : Nat}
    (h : (key, innovation) ∈ t.connections) (h' : (key', innovation) ∈ t.connections) : key = key' :=
  eq_of_snd_nodup hs.innovations_nodup h h'

theorem hidden_range {id innovation : Nat} (h : (innovation, id) ∈ t.splitNodes) :
    inputs + outputs < id :=
  (hs.id_range _ h).1

variable {id : Nat} {kind : NodeKind} {layer : ℚ} (h : Charted inputs outputs t id kind layer)
include h

theorem charted_input (hid : id < inputs) : kind = .input ∧ layer = 0 := by
  cases h with
  | input _ => exact ⟨rfl, rfl⟩
  | bias => omega
  | output _ => omega
  | hidden hsplit => have hrange := hs.hidden_range hsplit; omega

theorem charted_bias (hid : id = inputs) : kind = .bias ∧ layer = 0 := by
  cases h with
  | input _ => omega
  | bias => exact ⟨rfl, rfl⟩
  | output _ => omega
  | hidden hsplit => have hrange := hs.hidden_range hsplit; omega

theorem charted_output (hid : inputs < id) (hid' : id ≤ inputs + outputs) :
    kind = .output ∧ layer = 1 := by
  cases h with
  | input _ => omega
  | bias => omega
  | output _ => exact ⟨rfl, rfl⟩
  | hidden hsplit => have hrange := hs.hidden_range hsplit; omega

/-- A node id denotes one kind and one layer: it is an input's, the bias's or an output's, or it
splits one innovation, which is one key. -/
theorem charted_unique {kind' : NodeKind} {layer' : ℚ}
    (h' : Charted inputs outputs t id kind' layer') : kind' = kind ∧ layer' = layer := by
  induction h generalizing kind' layer' with
  | input hid => exact hs.charted_input h' hid
  | bias => exact hs.charted_bias h' rfl
  | output hindex => exact hs.charted_output h' (by omega) (by omega)
  | hidden hsplit hkey _ _ iha ihb =>
    have hrange := hs.hidden_range hsplit
    cases h' with
    | input _ => omega
    | bias => omega
    | output _ => omega
    | hidden hsplit' hkey' ha' hb' =>
      obtain rfl := eq_of_snd_nodup hs.ids_nodup hsplit hsplit'
      have hsame := hs.key_unique hkey hkey'
      simp only [Prod.mk.injEq, and_true] at hsame
      obtain ⟨rfl, rfl⟩ := hsame
      exact ⟨rfl, by rw [(iha ha').2, (ihb hb').2]⟩

end InnovationTracker.Sound

theorem new_sound : (InnovationTracker.new (inputs + outputs + 1)).Sound inputs outputs := by
  constructor <;> simp [InnovationTracker.new]

theorem connection_upholds {R : Type} {key : ConnectionKey} (hs : t.Sound inputs outputs)
    (hkey : KeyCharted inputs outputs t key) :
    Upholds (InnovationTracker.Sound inputs outputs) (innovationOf key : Breed R Nat) t
      fun innovation t' => (key, innovation) ∈ t'.connections := by
  refine Yields.lift fun numbered hnumbered => ?_
  simp only [InnovationTracker.connection] at hnumbered
  cases hfound : t.connections.lookup key with
  | some innovation =>
    simp only [hfound, Option.some.injEq] at hnumbered
    subst hnumbered
    exact ⟨le_refl t, hs, mem_of_lookup hfound⟩
  | none =>
    simp only [hfound, Option.map_eq_some_iff, increment] at hnumbered
    obtain ⟨next, hnext, rfl⟩ := hnumbered
    obtain ⟨-, hnext⟩ := Option.ite_none_right_eq_some.mp hnext
    obtain rfl := Option.some.inj hnext
    have hle : t ≤ { t with
        nextInnovation := t.nextInnovation + 1
        connections := (key, t.nextInnovation) :: t.connections } :=
      ⟨List.subset_cons_self _ _, List.Subset.refl _⟩
    refine ⟨hle, ?_, List.mem_cons_self⟩
    have hfresh : t.nextInnovation ∉ t.connections.map Prod.snd := by
      intro hmem
      obtain ⟨entry, hentry, heq⟩ := List.mem_map.mp hmem
      have hlt := hs.innovation_lt entry hentry
      omega
    constructor
    · intro entry hentry
      obtain rfl | hold := List.mem_cons.mp hentry
      · simp
      · have hlt := hs.innovation_lt entry hold
        simp only
        omega
    · have hkeys := List.lookup_eq_none_iff.mp hfound
      rw [List.map_cons, List.nodup_cons]
      refine ⟨?_, hs.keys_nodup⟩
      intro hmem
      obtain ⟨entry, hentry, heq⟩ := List.mem_map.mp hmem
      have hne := hkeys entry hentry
      simp [heq] at hne
    · simpa [hs.innovations_nodup] using hfresh
    · exact hs.firstHidden_le
    · exact hs.id_range
    · exact hs.ids_nodup
    · intro entry hentry
      obtain rfl | hold := List.mem_cons.mp hentry
      · exact hkey.lasts hle
      · exact (hs.keys_charted entry hold).lasts hle
    · intro entry hentry
      obtain ⟨a, b, hkey⟩ := hs.splits_keyed entry hentry
      exact ⟨a, b, List.mem_cons_of_mem _ hkey⟩

theorem splitNode_upholds {R : Type} {innovation a b : Nat} (hs : t.Sound inputs outputs)
    (hkey : ((a, b, false), innovation) ∈ t.connections) :
    Upholds (InnovationTracker.Sound inputs outputs) (nodeSplitting innovation : Breed R Nat) t
      fun id t' => (innovation, id) ∈ t'.splitNodes := by
  refine Yields.lift fun numbered hnumbered => ?_
  simp only [InnovationTracker.splitNode] at hnumbered
  cases hfound : t.splitNodes.lookup innovation with
  | some id =>
    simp only [hfound, Option.some.injEq] at hnumbered
    subst hnumbered
    exact ⟨le_refl t, hs, mem_of_lookup hfound⟩
  | none =>
    simp only [hfound, Option.map_eq_some_iff, increment] at hnumbered
    obtain ⟨next, hnext, rfl⟩ := hnumbered
    obtain ⟨-, hnext⟩ := Option.ite_none_right_eq_some.mp hnext
    obtain rfl := Option.some.inj hnext
    have hle : t ≤ { t with
        nextNodeId := t.nextNodeId + 1
        splitNodes := (innovation, t.nextNodeId) :: t.splitNodes } :=
      ⟨List.Subset.refl _, List.subset_cons_self _ _⟩
    refine ⟨hle, ?_, List.mem_cons_self⟩
    have hfresh : t.nextNodeId ∉ t.splitNodes.map Prod.snd := by
      intro hmem
      obtain ⟨entry, hentry, heq⟩ := List.mem_map.mp hmem
      have hrange := hs.id_range entry hentry
      omega
    have hfirst := hs.firstHidden_le
    constructor
    · exact hs.innovation_lt
    · exact hs.keys_nodup
    · exact hs.innovations_nodup
    · simp only
      omega
    · intro entry hentry
      obtain rfl | hold := List.mem_cons.mp hentry
      · simp only
        omega
      · have hrange := hs.id_range entry hold
        simp only
        omega
    · simpa [hs.ids_nodup] using hfresh
    · intro entry hentry
      exact (hs.keys_charted entry hentry).lasts hle
    · intro entry hentry
      obtain rfl | hold := List.mem_cons.mp hentry
      · exact ⟨a, b, hkey⟩
      · exact hs.splits_keyed entry hold

end Chart

end Netherwick.Neat
