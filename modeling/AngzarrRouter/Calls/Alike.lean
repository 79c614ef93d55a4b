import AngzarrRouter.Calls.Fold
import Mathlib.Data.List.Forall2

open calls Outcome

namespace calls

section

variable {ε ε' δ δ' α β : Type} {errs : ε → ε' → Prop} {fails : δ → δ' → Prop}

/-- Two calls that come back alike: with one value, with errors that `errs`
relates, or not at all. -/
inductive Alike (errs : ε → ε' → Prop) : Outcome ε α → Outcome ε' α → Prop where
  | ok (value : α) : Alike errs (.ok value) (.ok value)
  | err {error : ε} {error' : ε'} (h : errs error error') : Alike errs (.err error) (.err error')
  | panic : Alike errs .panic .panic

namespace Alike

variable {x : Outcome ε α} {x' : Outcome ε' α}

/-- Calls that come back alike go on alike, if what they return does. -/
theorem bind (h : Alike errs x x') {next : α → Outcome ε β} {next' : α → Outcome ε' β}
    (hnext : ∀ value, x = .ok value → Alike errs (next value) (next' value)) :
    Alike errs (x >>= next) (x' >>= next') := by
  cases h with
  | ok value => exact hnext value rfl
  | err herr => exact .err herr
  | panic => exact .panic

/-- What is made of what they return is alike as well. -/
theorem map (h : Alike errs x x') (f : α → β) : Alike errs (x.map f) (x'.map f) := by
  cases h with
  | ok value => exact .ok (f value)
  | err herr => exact .err herr
  | panic => exact .panic

/-- Renaming their errors keeps them alike. -/
theorem map_err (h : Alike errs x x') {f : ε → δ} {f' : ε' → δ'}
    (hf : ∀ error error', errs error error' → fails (f error) (f' error')) :
    Alike fails (x.map_err f) (x'.map_err f') := by
  cases h with
  | ok value => exact .ok value
  | err herr => exact .err (hf _ _ herr)
  | panic => exact .panic

/-- They return the same values. -/
theorem eq_ok (h : Alike errs x x') {value : α} : x = .ok value ↔ x' = .ok value := by
  cases h <;> simp

theorem refl {errs : ε → ε → Prop} (hrefl : ∀ error, errs error error) (x : Outcome ε α) :
    Alike errs x x := by
  cases x with
  | ok value => exact .ok value
  | err error => exact .err (hrefl error)
  | panic => exact .panic

/-- With the same errors as well, they are the same. -/
theorem eq {x x' : Outcome ε α} (h : Alike Eq x x') : x = x' := by
  cases h with
  | ok value => rfl
  | err herr => rw [herr]
  | panic => rfl

/-- Outcomes whose errors are named alike come back alike, up to those names. -/
theorem of_map_err {name : ε → δ} {name' : ε' → δ} (h : x.map_err name = x'.map_err name') :
    Alike (fun error error' => name error = name' error') x x' := by
  cases x with
  | ok value =>
    cases x' with
    | ok value' =>
      obtain rfl : value = value' := Outcome.ok.inj h
      exact .ok value
    | err error' => cases h
    | panic => cases h
  | err error =>
    cases x' with
    | ok value' => cases h
    | err error' => exact .err (Outcome.err.inj h)
    | panic => cases h
  | panic =>
    cases x' with
    | ok value' => cases h
    | err error' => cases h
    | panic => exact .panic

end Alike

end

section

variable {σ ε ε' δ δ' α β ι ι' : Type} {errs : ε → ε' → Prop} {fails : δ → δ' → Prop}

/-- Calls on a mutable borrow that come back alike and leave one value there. -/
structure AlikeCalls (errs : ε → ε' → Prop) (call : MutCall σ ε α) (call' : MutCall σ ε' α) :
    Prop where
  state : call.1 = call'.1
  answer : Alike errs call.2 call'.2

namespace AlikeCalls

variable {call : MutCall σ ε α} {call' : MutCall σ ε' α}

/-- Calls go on alike that leave one value behind. -/
theorem andThen (h : AlikeCalls errs call call') {next : σ → α → MutCall σ ε β}
    {next' : σ → α → MutCall σ ε' β}
    (hnext : ∀ state value, AlikeCalls errs (next state value) (next' state value)) :
    AlikeCalls errs (call.andThen next) (call'.andThen next') := by
  obtain ⟨state, answer⟩ := call
  obtain ⟨state', answer'⟩ := call'
  obtain ⟨hstate, hanswer⟩ := h
  obtain rfl : state = state' := hstate
  cases hanswer with
  | ok value => exact hnext state value
  | err herr => exact ⟨rfl, .err herr⟩
  | panic => exact ⟨rfl, .panic⟩

/-- Taken by value, a borrow comes back alike. -/
theorem owned (h : AlikeCalls errs call call') : Alike errs call.owned call'.owned := by
  obtain ⟨state, answer⟩ := call
  obtain ⟨state', answer'⟩ := call'
  obtain ⟨hstate, hanswer⟩ := h
  obtain rfl : state = state' := hstate
  cases hanswer with
  | ok value => exact .ok (state, value)
  | err herr => exact .err herr
  | panic => exact .panic

theorem map_err (h : AlikeCalls errs call call') {f : ε → δ} {f' : ε' → δ'}
    (hf : ∀ error error', errs error error' → fails (f error) (f' error')) :
    AlikeCalls fails (call.map_err f) (call'.map_err f') :=
  ⟨h.state, h.answer.map_err hf⟩

/-- Calls that are one call but for how errors are named are alike. -/
theorem of_map_err {name : ε → δ} {name' : ε' → δ} (h : call.map_err name = call'.map_err name') :
    AlikeCalls (fun error error' => name error = name' error') call call' := by
  obtain ⟨hstate, hanswer⟩ := Prod.mk.inj h
  exact ⟨hstate, .of_map_err hanswer⟩

end AlikeCalls

/-- The passes a loop makes: each item it comes to, with the state it comes to
it in, up to the one it leaves the loop at. -/
def passes (body : σ → ι → MutCall σ ε Unit) : σ → List ι → List (σ × ι)
  | _, [] => []
  | state, item :: rest =>
    (state, item) :: match body state item with
      | (state, .ok ()) => passes body state rest
      | _ => []

variable {items : ι → ι' → Prop}
  {body : σ → ι → MutCall σ ε Unit} {body' : σ → ι' → MutCall σ ε' Unit}
  {left : List ι} {right : List ι'}

/-- Loops over items alike, one by one, whose passes go alike: they end alike. -/
theorem for_each_alike (hitems : List.Forall₂ items left right)
    (hbody : ∀ state item item', items item item' →
      AlikeCalls errs (body state item) (body' state item')) (state : σ) :
    AlikeCalls errs (for_each body state left) (for_each body' state right) := by
  induction hitems generalizing state with
  | nil => exact ⟨rfl, .ok ()⟩
  | cons hitem _ ih => exact (hbody state _ _ hitem).andThen fun state _ => ih state

/-- And they make the same passes, over items alike. -/
theorem passes_alike (hitems : List.Forall₂ items left right)
    (hbody : ∀ state item item', items item item' →
      AlikeCalls errs (body state item) (body' state item')) (state : σ) :
    List.Forall₂ (fun pass pass' => pass.1 = pass'.1 ∧ items pass.2 pass'.2)
      (passes body state left) (passes body' state right) := by
  induction hitems generalizing state with
  | nil => exact .nil
  | @cons item item' _ _ hitem _ ih =>
    obtain ⟨hstate, hanswer⟩ := hbody state item item' hitem
    rw [passes, passes]
    generalize body state item = call at hstate hanswer ⊢
    generalize body' state item' = call' at hstate hanswer ⊢
    obtain ⟨next, answer⟩ := call
    obtain ⟨next', answer'⟩ := call'
    obtain rfl : next = next' := hstate
    refine .cons ⟨rfl, hitem⟩ ?_
    cases hanswer with
    | ok value => exact ih next
    | err _ => exact .nil
    | panic => exact .nil

end

end calls
