import Mathlib.Data.List.Infix

/-! # Runs of a machine over its inputs

`after step start inputs` is where a machine is once it has taken the inputs one by one.
`EachStep step start p inputs` says that every input taken finds the machine in a state in which `p`
allows it. What every allowed step keeps holds after every allowed run. -/

namespace Netherwick.Lib

section Run

variable {σ ι : Type} (step : σ → ι → σ) (start : σ)

def after (inputs : List ι) : σ := inputs.foldl step start

@[simp] theorem after_nil : after step start [] = start := rfl

@[simp] theorem after_append (inputs more : List ι) :
    after step start (inputs ++ more) = after step (after step start inputs) more := by
  simp [after]

@[simp] theorem after_cons (input : ι) (inputs : List ι) :
    after step start (input :: inputs) = after step (step start input) inputs := rfl

/-- Every input of the run is one that `p` allows where it arrives. -/
def EachStep (p : σ → ι → Prop) (inputs : List ι) : Prop :=
  ∀ past input, past ++ [input] <+: inputs → p (after step start past) input

variable {step start} {p q : σ → ι → Prop} {inputs : List ι}

theorem EachStep.of_isPrefix {part : List ι} (h : EachStep step start p inputs)
    (hpart : part <+: inputs) : EachStep step start p part :=
  fun past input hpast => h past input (hpast.trans hpart)

@[simp] theorem eachStep_nil : EachStep step start p [] := by
  intro past input hpast
  have hlength := hpast.length_le
  simp at hlength

theorem eachStep_concat {input : ι} :
    EachStep step start p (inputs ++ [input]) ↔
      EachStep step start p inputs ∧ p (after step start inputs) input := by
  constructor
  · intro h
    exact ⟨h.of_isPrefix (List.prefix_append _ _), h inputs input (List.prefix_refl _)⟩
  · rintro ⟨h, hlast⟩ past next hpast
    obtain heq | hpart := List.prefix_concat_iff.mp hpast
    · obtain ⟨rfl, hnext⟩ := List.append_inj' heq rfl
      obtain rfl : next = input := by simpa using hnext
      exact hlast
    · exact h past next hpart

theorem eachStep_cons {input : ι} :
    EachStep step start p (input :: inputs) ↔
      p start input ∧ EachStep step (step start input) p inputs := by
  constructor
  · intro h
    constructor
    · exact h [] input (List.cons_prefix_cons.mpr ⟨rfl, List.nil_prefix⟩)
    · exact fun past next hpast =>
        h (input :: past) next (List.cons_prefix_cons.mpr ⟨rfl, hpast⟩)
  · rintro ⟨hfirst, hrest⟩ past next hpast
    cases past with
    | nil =>
      obtain ⟨rfl, _⟩ := List.cons_prefix_cons.mp hpast
      exact hfirst
    | cons other past =>
      obtain ⟨rfl, hshort⟩ := List.cons_prefix_cons.mp hpast
      exact hrest past next hshort

theorem eachStep_append {more : List ι} :
    EachStep step start p (inputs ++ more) ↔
      EachStep step start p inputs ∧ EachStep step (after step start inputs) p more := by
  induction inputs generalizing start with
  | nil => simp
  | cons input inputs ih =>
    rw [List.cons_append, eachStep_cons, eachStep_cons, ih, and_assoc]
    rfl

instance EachStep.decidable [∀ state input, Decidable (p state input)] :
    ∀ (start : σ) (inputs : List ι), Decidable (EachStep step start p inputs)
  | _, [] => .isTrue eachStep_nil
  | start, input :: inputs =>
    have := EachStep.decidable (step start input) inputs
    decidable_of_iff' (p start input ∧ EachStep step (step start input) p inputs) eachStep_cons

theorem EachStep.invariant {P : σ → Prop} (h : EachStep step start p inputs) (hstart : P start)
    (hstep : ∀ state input, P state → p state input → P (step state input)) :
    P (after step start inputs) := by
  induction inputs using List.reverseRecOn with
  | nil => exact hstart
  | append_singleton inputs input ih =>
    have hparts := eachStep_concat.mp h
    simpa using hstep _ input (ih hparts.1) hparts.2

theorem after_invariant {P : σ → Prop} (hstart : P start)
    (hstep : ∀ state input, P state → P (step state input)) (inputs : List ι) :
    P (after step start inputs) :=
  EachStep.invariant (p := fun _ _ => True) (fun _ _ _ => trivial) hstart
    fun state input hstate _ => hstep state input hstate

end Run

end Netherwick.Lib
