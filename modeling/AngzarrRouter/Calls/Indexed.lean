import AngzarrRouter.Calls.Fold

open calls calls.MutCall

namespace calls

variable {σ ε ε' α : Type}

theorem MutCall.map_err_map_err {ε'' : Type} (f : ε → ε') (g : ε' → ε'') (call : MutCall σ ε α) :
    (call.map_err f).map_err g = call.map_err fun error => g (f error) := by
  obtain ⟨state, value | error | _⟩ := call <;> rfl

/-- A `for` loop that counts its items: a failure says at which one it left. -/
def for_each_at (body : σ → α → MutCall σ ε Unit) : Nat → σ → List α → MutCall σ (Nat × ε) Unit
  | _, state, [] => (state, .ok ())
  | index, state, item :: rest =>
    ((body state item).map_err fun error => (index, error)).andThen fun state _ =>
      for_each_at body (index + 1) state rest

/-- A loop whose failure is named by its index, looked up in the items, is one
whose passes each name their own. -/
theorem for_each_at_map_err {body : σ → α → MutCall σ ε Unit} {name : α → ε → ε'}
    {place : Nat × ε → ε'} {front items : List α}
    (hplace : ∀ index item error, (front ++ items)[index]? = some item →
      place (index, error) = name item error) (state : σ) :
    (for_each_at body front.length state items).map_err place =
      for_each (fun state item => (body state item).map_err (name item)) state items := by
  induction items generalizing front state with
  | nil => rfl
  | cons item rest ih =>
    have hjoin : front ++ item :: rest = (front ++ [item]) ++ rest := List.append_cons ..
    rw [hjoin] at hplace
    have hrest : ∀ next, (for_each_at body (front.length + 1) next rest).map_err place =
        for_each (fun state item => (body state item).map_err (name item)) next rest := by
      intro next
      have hnext := ih hplace next
      rwa [List.length_append, List.length_singleton] at hnext
    rw [for_each_at, for_each_cons]
    rcases body state item with ⟨next, ⟨⟩ | error | _⟩
    · rw [MutCall.map_err_ok, MutCall.map_err_ok, andThen_ok, andThen_ok]
      exact hrest next
    · have hitem : ((front ++ [item]) ++ rest)[front.length]? = some item := by simp
      rw [MutCall.map_err_err, andThen_err, MutCall.map_err_err, MutCall.map_err_err, andThen_err,
        hplace front.length item error hitem]
    · rfl

end calls
