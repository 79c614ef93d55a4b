import Mathlib.Data.List.Basic

namespace logic

/-- A predicate over leaves that are on or off. -/
inductive Formula (α : Type) where
  | leaf (a : α)
  | all (fs : List (Formula α))
  | any (fs : List (Formula α))
  | not (f : Formula α)

variable {α : Type}

mutual

/-- A predicate holds in a build, which has some of its leaves on. -/
def Formula.holds (build : α → Bool) : Formula α → Bool
  | .leaf a => build a
  | .all fs => all_hold build fs
  | .any fs => any_holds build fs
  | .not f => !f.holds build

def all_hold (build : α → Bool) : List (Formula α) → Bool
  | [] => true
  | f :: fs => f.holds build && all_hold build fs

def any_holds (build : α → Bool) : List (Formula α) → Bool
  | [] => false
  | f :: fs => f.holds build || any_holds build fs

end

variable {build : α → Bool}

/-- A list holds as each of its predicates does. -/
theorem all_hold_iff {fs : List (Formula α)} :
    all_hold build fs = true ↔ ∀ f ∈ fs, f.holds build = true := by
  induction fs with
  | nil => simp [all_hold]
  | cons f fs ih => rw [all_hold, Bool.and_eq_true, ih, List.forall_mem_cons]

theorem any_holds_iff {fs : List (Formula α)} :
    any_holds build fs = true ↔ ∃ f ∈ fs, f.holds build = true := by
  induction fs with
  | nil => simp [any_holds]
  | cons f fs ih => simp [any_holds, ih]

theorem all_hold_eq_false_iff {fs : List (Formula α)} :
    all_hold build fs = false ↔ ∃ f ∈ fs, f.holds build = false := by
  rw [← Bool.not_eq_true, all_hold_iff]
  simp

theorem any_holds_eq_false_iff {fs : List (Formula α)} :
    any_holds build fs = false ↔ ∀ f ∈ fs, f.holds build = false := by
  rw [← Bool.not_eq_true, any_holds_iff]
  simp

mutual

/-- A predicate without `not`. -/
def Formula.positive : Formula α → Bool
  | .leaf _ => true
  | .all fs => all_positive fs
  | .any fs => all_positive fs
  | .not _ => false

def all_positive : List (Formula α) → Bool
  | [] => true
  | f :: fs => f.positive && all_positive fs

end

mutual

/-- A leaf needs itself alone, `all` what one of its predicates needs, and
`any` what each of them does. -/
def Formula.needs (goal : α → Bool) : Formula α → Bool
  | .leaf a => goal a
  | .all fs => any_needs goal fs
  | .any fs => all_need goal fs
  | .not _ => false

def any_needs (goal : α → Bool) : List (Formula α) → Bool
  | [] => false
  | f :: fs => f.needs goal || any_needs goal fs

def all_need (goal : α → Bool) : List (Formula α) → Bool
  | [] => true
  | f :: fs => f.needs goal && all_need goal fs

end

mutual

/-- Off with `goal` and nothing else, a predicate without `not` is one that
needs it. -/
theorem Formula.holds_without (goal : α → Bool) : (f : Formula α) → f.positive = true →
    f.holds (fun a => !goal a) = !f.needs goal
  | .leaf a, _ => rfl
  | .all fs, hfs => by rw [Formula.holds, Formula.needs, all_hold_without goal fs hfs]
  | .any fs, hfs => by rw [Formula.holds, Formula.needs, any_holds_without goal fs hfs]

/-- The same of lists all of which have to hold. -/
theorem all_hold_without (goal : α → Bool) : (fs : List (Formula α)) → all_positive fs = true →
    all_hold (fun a => !goal a) fs = !any_needs goal fs
  | [], _ => rfl
  | f :: fs, hfs => by
    obtain ⟨hf, hfs⟩ := Bool.and_eq_true_iff.mp hfs
    rw [all_hold, any_needs, f.holds_without goal hf, all_hold_without goal fs hfs, Bool.not_or]

/-- The same of lists any of which may hold. -/
theorem any_holds_without (goal : α → Bool) : (fs : List (Formula α)) → all_positive fs = true →
    any_holds (fun a => !goal a) fs = !all_need goal fs
  | [], _ => rfl
  | f :: fs, hfs => by
    obtain ⟨hf, hfs⟩ := Bool.and_eq_true_iff.mp hfs
    rw [any_holds, all_need, f.holds_without goal hf, any_holds_without goal fs hfs, Bool.not_and]

end

mutual

/-- A leaf that is a `goal` stands under an even number of `not`s (`on`), or
under an odd one. -/
def Formula.asks (goal : α → Bool) (on : Bool) : Formula α → Bool
  | .leaf a => goal a && on
  | .all fs => any_asks goal on fs
  | .any fs => any_asks goal on fs
  | .not f => f.asks goal (!on)

def any_asks (goal : α → Bool) (on : Bool) : List (Formula α) → Bool
  | [] => false
  | f :: fs => f.asks goal on || any_asks goal on fs

end

mutual

/-- A predicate that needs a goal and holds asks for one that is on. -/
theorem Formula.on_of_needs {goal : α → Bool} : (f : Formula α) → f.needs goal = true →
    f.holds build = true → f.asks goal true = true ∧ ∃ a, goal a = true ∧ build a = true
  | .leaf a, hneeds, hholds => ⟨Bool.and_eq_true_iff.mpr ⟨hneeds, rfl⟩, a, hneeds, hholds⟩
  | .all fs, hneeds, hholds => on_of_any_needs fs hneeds hholds
  | .any fs, hneeds, hholds => on_of_all_need fs hneeds hholds

/-- Of a list that holds, a goal is on if any of it needs one. -/
theorem on_of_any_needs {goal : α → Bool} : (fs : List (Formula α)) → any_needs goal fs = true →
    all_hold build fs = true → any_asks goal true fs = true ∧ ∃ a, goal a = true ∧ build a = true
  | f :: fs, hneeds, hholds => by
    obtain ⟨hhead, htail⟩ := Bool.and_eq_true_iff.mp hholds
    obtain hneeds | hneeds := Bool.or_eq_true_iff.mp hneeds
    · obtain ⟨hasks, hon⟩ := f.on_of_needs hneeds hhead
      exact ⟨Bool.or_eq_true_iff.mpr (.inl hasks), hon⟩
    · obtain ⟨hasks, hon⟩ := on_of_any_needs fs hneeds htail
      exact ⟨Bool.or_eq_true_iff.mpr (.inr hasks), hon⟩

/-- Of a list any of which holds, a goal is on if all of it need one. -/
theorem on_of_all_need {goal : α → Bool} : (fs : List (Formula α)) → all_need goal fs = true →
    any_holds build fs = true → any_asks goal true fs = true ∧ ∃ a, goal a = true ∧ build a = true
  | f :: fs, hneeds, hholds => by
    obtain ⟨hhead, htail⟩ := Bool.and_eq_true_iff.mp hneeds
    obtain hholds | hholds := Bool.or_eq_true_iff.mp hholds
    · obtain ⟨hasks, hon⟩ := f.on_of_needs hhead hholds
      exact ⟨Bool.or_eq_true_iff.mpr (.inl hasks), hon⟩
    · obtain ⟨hasks, hon⟩ := on_of_all_need fs htail hholds
      exact ⟨Bool.or_eq_true_iff.mpr (.inr hasks), hon⟩

end

mutual

/-- Turning the goals off leaves a predicate on that asks for none of them on,
and off one that asks for none off. -/
theorem Formula.holds_off {goal : α → Bool} (on : Bool) : (f : Formula α) →
    f.asks goal on = false → f.holds build = on → f.holds (fun a => build a && !goal a) = on
  | .leaf a, hasks, hholds => by
    rw [Formula.asks] at hasks
    rw [Formula.holds] at hholds ⊢
    cases on <;> simp_all
  | .all fs, hasks, hholds => by
    rw [Formula.holds] at hholds ⊢
    cases on with
    | true => exact all_hold_iff.mpr (all_hold_off true fs hasks (all_hold_iff.mp hholds))
    | false =>
      exact all_hold_eq_false_iff.mpr (any_hold_off false fs hasks (all_hold_eq_false_iff.mp hholds))
  | .any fs, hasks, hholds => by
    rw [Formula.holds] at hholds ⊢
    cases on with
    | true => exact any_holds_iff.mpr (any_hold_off true fs hasks (any_holds_iff.mp hholds))
    | false =>
      exact any_holds_eq_false_iff.mpr (all_hold_off false fs hasks (any_holds_eq_false_iff.mp hholds))
  | .not f, hasks, hholds => by
    rw [Formula.holds] at hholds ⊢
    rw [f.holds_off (!on) hasks (by rw [← hholds, Bool.not_not]), Bool.not_not]

/-- With the goals off, all of a list that asks for none of them come out as before. -/
theorem all_hold_off {goal : α → Bool} (on : Bool) : (fs : List (Formula α)) →
    any_asks goal on fs = false → (∀ f ∈ fs, f.holds build = on) →
      ∀ f ∈ fs, f.holds (fun a => build a && !goal a) = on
  | [], _, _ => fun _ hf => absurd hf List.not_mem_nil
  | f :: fs, hasks, hholds => by
    obtain ⟨hhead, htail⟩ := Bool.or_eq_false_iff.mp hasks
    rw [List.forall_mem_cons] at hholds ⊢
    exact ⟨f.holds_off on hhead hholds.1, all_hold_off on fs htail hholds.2⟩

/-- And if one of the list came out so, one still does. -/
theorem any_hold_off {goal : α → Bool} (on : Bool) : (fs : List (Formula α)) →
    any_asks goal on fs = false → (∃ f ∈ fs, f.holds build = on) →
      ∃ f ∈ fs, f.holds (fun a => build a && !goal a) = on
  | f :: fs, hasks, hholds => by
    obtain ⟨hhead, htail⟩ := Bool.or_eq_false_iff.mp hasks
    rw [List.exists_mem_cons_iff] at hholds ⊢
    exact hholds.imp (f.holds_off on hhead) (any_hold_off on fs htail)

end

end logic
