import Mathlib.Data.List.Nodup

namespace calls

variable {α κ : Type}

/-- The steps taken from one value to another, by their labels, in order. -/
inductive Chain (step : α → κ → α → Prop) : List κ → α → α → Prop where
  | here (value : α) : Chain step [] value value
  | step {label : κ} {labels : List κ} {first next last : α} (hstep : step first label next)
      (htail : Chain step labels next last) : Chain step (label :: labels) first last

/-- A value allows one step at most. -/
def Deterministic (step : α → κ → α → Prop) : Prop :=
  ∀ ⦃value label label' next next'⦄, step value label next → step value label' next' →
    label = label' ∧ next = next'

/-- A chain of steps labelled apart that no other such chain goes beyond. -/
structure LongestOnce (step : α → κ → α → Prop) (labels : List κ) (first last : α) : Prop where
  chain : Chain step labels first last
  nodup : labels.Nodup
  longest : ∀ labels' last', Chain step labels' first last' → labels'.Nodup → labels' <+: labels

variable {step : α → κ → α → Prop} {labels labels' : List κ} {first last last' : α}

/-- Of two chains from one value, one goes on from where the other ends. -/
theorem Chain.extends (hdet : Deterministic step) (hchain : Chain step labels first last)
    (hchain' : Chain step labels' first last') :
    (∃ more, labels' = labels ++ more ∧ Chain step more last last') ∨
      ∃ more, labels = labels' ++ more ∧ Chain step more last' last := by
  induction hchain generalizing labels' with
  | here value => exact .inl ⟨labels', rfl, hchain'⟩
  | step hstep htail ih =>
    cases hchain' with
    | here => exact .inr ⟨_, rfl, .step hstep htail⟩
    | step hstep' htail' =>
      obtain ⟨rfl, rfl⟩ := hdet hstep hstep'
      obtain ⟨more, rfl, hmore⟩ | ⟨more, rfl, hmore⟩ := ih htail'
      · exact .inl ⟨more, rfl, hmore⟩
      · exact .inr ⟨more, rfl, hmore⟩

/-- A chain of steps labelled apart is the longest once its end allows only
steps it has taken. -/
theorem LongestOnce.of_stuck (hdet : Deterministic step) (hchain : Chain step labels first last)
    (hnodup : labels.Nodup) (hstuck : ∀ label next, step last label next → label ∈ labels) :
    LongestOnce step labels first last := by
  refine ⟨hchain, hnodup, fun labels' last' hchain' hnodup' => ?_⟩
  obtain ⟨more, rfl, hmore⟩ | ⟨more, rfl, _⟩ := hchain.extends hdet hchain'
  · cases hmore with
    | here => simp
    | @step label labels _ next _ hstep htail =>
      have htaken := hstuck label next hstep
      have hapart := List.disjoint_of_nodup_append hnodup'
      exact absurd (List.mem_cons_self ..) (hapart htaken)
  · exact List.prefix_append labels' more

/-- There is one longest chain, and one value at its end. -/
theorem LongestOnce.unique (hdet : Deterministic step) (hlongest : LongestOnce step labels first last)
    (hlongest' : LongestOnce step labels' first last') : labels = labels' ∧ last = last' := by
  have hprefix := hlongest.longest _ _ hlongest'.chain hlongest'.nodup
  have hprefix' := hlongest'.longest _ _ hlongest.chain hlongest.nodup
  obtain rfl : labels' = labels :=
    hprefix.eq_of_length (Nat.le_antisymm hprefix.length_le hprefix'.length_le)
  refine ⟨rfl, ?_⟩
  obtain ⟨more, hmore, hend⟩ | ⟨more, hmore, hend⟩ := hlongest.chain.extends hdet hlongest'.chain
  · obtain rfl := List.self_eq_append_right.mp hmore
    cases hend
    rfl
  · obtain rfl := List.self_eq_append_right.mp hmore
    cases hend
    rfl

end calls
