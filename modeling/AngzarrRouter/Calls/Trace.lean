import AngzarrRouter.Calls.Fold

open calls MutCall

namespace calls

variable {σ ε α : Type}

/-- A loop's run over items that its body came back for, each of them allowed
where the loop met it. -/
inductive Trace (body : σ → α → MutCall σ ε Unit) (allowed : σ → α → Prop) :
    σ → List α → σ → Prop where
  | nil (state : σ) : Trace body allowed state [] state
  | cons {state next last : σ} {item : α} {rest : List α} (hitem : allowed state item)
      (hbody : body state item = (next, .ok ())) (hrest : Trace body allowed next rest last) :
      Trace body allowed state (item :: rest) last

namespace Trace

variable {body : σ → α → MutCall σ ε Unit} {allowed : σ → α → Prop} {state middle last : σ}
  {front back items : List α}

/-- What is traced is a run of the loop. -/
theorem for_each_eq (htrace : Trace body allowed state items last) :
    for_each body state items = (last, .ok ()) := by
  induction htrace with
  | nil => rfl
  | cons _ hbody _ ih => rw [for_each_cons, hbody, andThen_ok, ih]

/-- Traces go on one after another. -/
theorem append (hfront : Trace body allowed state front middle)
    (hback : Trace body allowed middle back last) : Trace body allowed state (front ++ back) last := by
  induction hfront with
  | nil => exact hback
  | cons hitem hbody _ ih => exact .cons hitem hbody (ih hback)

/-- A trace passes through the state between two parts of its items. -/
theorem of_append (htrace : Trace body allowed state (front ++ back) last) :
    ∃ middle, Trace body allowed state front middle ∧ Trace body allowed middle back last := by
  induction front generalizing state with
  | nil => exact ⟨state, .nil state, htrace⟩
  | cons item rest ih =>
    cases htrace with
    | cons hitem hbody hrest =>
      obtain ⟨middle, hfront, hback⟩ := ih hrest
      exact ⟨middle, .cons hitem hbody hfront, hback⟩

/-- What each pass over an allowed item keeps, the run does. -/
theorem keeps {good : σ → Prop}
    (hkeeps : ∀ {state item next}, good state → allowed state item →
      body state item = (next, .ok ()) → good next)
    (htrace : Trace body allowed state items last) (hgood : good state) : good last := by
  induction htrace with
  | nil => exact hgood
  | cons hitem hbody _ ih => exact ih (hkeeps hgood hitem hbody)

end Trace

end calls
