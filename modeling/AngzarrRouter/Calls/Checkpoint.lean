import AngzarrRouter.Calls.Fold

open calls Outcome MutCall

namespace calls

variable {σ ε α : Type} {body : σ → α → MutCall σ ε Unit} {start state : σ} {items : List α} {k : Nat}

/-- A value a loop over `items` holds once it has come through the first `k`. -/
structure Checkpoint (body : σ → α → MutCall σ ε Unit) (start : σ) (items : List α) (k : Nat)
    (state : σ) : Prop where
  within : k ≤ items.length
  came : for_each body start (items.take k) = (state, .ok ())

/-- A loop taken up from a checkpoint goes on as the whole loop does, to the
same value or the same failure. -/
theorem Checkpoint.resume (hcheck : Checkpoint body start items k state) :
    for_each body state (items.drop k) = for_each body start items := by
  have hwhole := for_each_append body start (items.take k) (items.drop k)
  rw [List.take_append_drop, hcheck.came, andThen_ok] at hwhole
  exact hwhole.symm

/-- Items added at the end leave a checkpoint where it was. -/
theorem Checkpoint.append (hcheck : Checkpoint body start items k state) (more : List α) :
    Checkpoint body start (items ++ more) k state where
  within := by
    rw [List.length_append]
    exact Nat.le_add_right_of_le hcheck.within
  came := by
    rw [List.take_append_of_le_length hcheck.within]
    exact hcheck.came

/-- What a whole loop leaves is a checkpoint at its end. -/
theorem Checkpoint.all (hloop : for_each body start items = (state, .ok ())) :
    Checkpoint body start items items.length state where
  within := Nat.le_refl _
  came := by rw [List.take_length, hloop]

end calls
