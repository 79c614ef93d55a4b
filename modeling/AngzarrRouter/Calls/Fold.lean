import AngzarrRouter.Calls.Outcome

open calls Outcome

namespace calls

/-- A call on a value borrowed mutably: the value it leaves, however it comes
back, beside how it does. -/
abbrev MutCall (σ ε α : Type) : Type := σ × Outcome ε α

namespace MutCall

variable {σ ε ε' α β γ : Type}

/-- `?` after a call on a mutable borrow: what follows runs on the value left
there, and not at all after an error or an unwinding. -/
def andThen (call : MutCall σ ε α) (next : σ → α → MutCall σ ε β) : MutCall σ ε β :=
  match call with
  | (state, .ok value) => next state value
  | (state, .err error) => (state, .err error)
  | (state, .panic) => (state, .panic)

/-- The outcome alone, for a caller that owns the borrowed value: an error or
an unwinding drops it. -/
def owned (call : MutCall σ ε α) : Outcome ε (σ × α) :=
  match call with
  | (state, .ok value) => .ok (state, value)
  | (_, .err error) => .err error
  | (_, .panic) => .panic

/-- `map_err` on what a call on a mutable borrow answers. -/
def map_err (f : ε → ε') (call : MutCall σ ε α) : MutCall σ ε' α := (call.1, call.2.map_err f)

/-- `map` on what a call on a mutable borrow answers. -/
def map (f : α → β) (call : MutCall σ ε α) : MutCall σ ε β := (call.1, call.2.map f)

@[simp] theorem andThen_ok (state : σ) (value : α) (next : σ → α → MutCall σ ε β) :
    andThen (state, .ok value) next = next state value := rfl

@[simp] theorem andThen_err (state : σ) (error : ε) (next : σ → α → MutCall σ ε β) :
    andThen (state, .err error) next = (state, .err error) := rfl

@[simp] theorem andThen_panic (state : σ) (next : σ → α → MutCall σ ε β) :
    andThen (state, .panic) next = (state, .panic) := rfl

@[simp] theorem owned_ok (state : σ) (value : α) :
    owned ((state, .ok value) : MutCall σ ε α) = .ok (state, value) := rfl

@[simp] theorem owned_err (state : σ) (error : ε) :
    owned ((state, .err error) : MutCall σ ε α) = .err error := rfl

@[simp] theorem owned_panic (state : σ) : owned ((state, .panic) : MutCall σ ε α) = .panic := rfl

@[simp] theorem map_err_ok (f : ε → ε') (state : σ) (value : α) :
    map_err f ((state, .ok value) : MutCall σ ε α) = (state, .ok value) := rfl

@[simp] theorem map_err_err (f : ε → ε') (state : σ) (error : ε) :
    map_err f ((state, .err error) : MutCall σ ε α) = (state, .err (f error)) := rfl

@[simp] theorem map_err_panic (f : ε → ε') (state : σ) :
    map_err f ((state, .panic) : MutCall σ ε α) = (state, .panic) := rfl

@[simp] theorem map_ok (f : α → β) (state : σ) (value : α) :
    map f ((state, .ok value) : MutCall σ ε α) = (state, .ok (f value)) := rfl

@[simp] theorem map_error (f : α → β) (state : σ) (error : ε) :
    map f ((state, .err error) : MutCall σ ε α) = (state, .err error) := rfl

@[simp] theorem map_panic (f : α → β) (state : σ) :
    map f ((state, .panic) : MutCall σ ε α) = (state, .panic) := rfl

theorem map_andThen (f : β → γ) (call : MutCall σ ε α) (next : σ → α → MutCall σ ε β) :
    (call.andThen next).map f = call.andThen fun state value => (next state value).map f := by
  obtain ⟨state, value | error | _⟩ := call <;> rfl

/-- What follows a call may be grouped either way. -/
theorem andThen_assoc (call : MutCall σ ε α) (f : σ → α → MutCall σ ε β)
    (g : σ → β → MutCall σ ε γ) :
    (call.andThen f).andThen g = call.andThen fun state value => (f state value).andThen g := by
  obtain ⟨state, value | error | _⟩ := call <;> rfl

/-- A call and what follows it succeed where both do. -/
theorem andThen_eq_ok_iff {call : MutCall σ ε α} {next : σ → α → MutCall σ ε β} {last : σ} {b : β} :
    call.andThen next = (last, .ok b) ↔
      ∃ state a, call = (state, .ok a) ∧ next state a = (last, .ok b) := by
  obtain ⟨state, value | error | _⟩ := call <;> simp

/-- Taken by value, a call succeeds as it did. -/
theorem owned_eq_ok_iff {call : MutCall σ ε α} {state : σ} {value : α} :
    call.owned = .ok (state, value) ↔ call = (state, .ok value) := by
  obtain ⟨left, found | error | _⟩ := call <;> simp

/-- It panics where it did. -/
theorem owned_eq_panic_iff {call : MutCall σ ε α} : call.owned = .panic ↔ call.2 = .panic := by
  obtain ⟨left, found | error | _⟩ := call <;> simp

end MutCall

open MutCall

section

variable {σ ε ε' α : Type}

/-- A `for` loop over `items` whose body changes `state` and may leave the
loop, and its caller, with `?`. -/
def for_each (body : σ → α → MutCall σ ε Unit) : σ → List α → MutCall σ ε Unit
  | state, [] => (state, .ok ())
  | state, item :: rest => (body state item).andThen fun state _ => for_each body state rest

@[simp] theorem for_each_nil (body : σ → α → MutCall σ ε Unit) (state : σ) :
    for_each body state [] = (state, .ok ()) := rfl

theorem for_each_cons (body : σ → α → MutCall σ ε Unit) (state : σ) (item : α) (rest : List α) :
    for_each body state (item :: rest) =
      (body state item).andThen fun state _ => for_each body state rest := rfl

/-- Looping over `front ++ back` is looping over `front` and then, unless that
left the loop, over `back`. -/
theorem for_each_append (body : σ → α → MutCall σ ε Unit) (state : σ) (front back : List α) :
    for_each body state (front ++ back) =
      (for_each body state front).andThen fun state _ => for_each body state back := by
  induction front generalizing state with
  | nil => rfl
  | cons item rest ih =>
    simp only [List.cons_append, for_each_cons, andThen_assoc]
    congr 1
    funext state _
    exact ih state

/-- Items the body skips make no difference wherever they stand. -/
theorem for_each_filter (body : σ → α → MutCall σ ε Unit) (keep : α → Bool)
    (hskip : ∀ state item, keep item = false → body state item = (state, .ok ()))
    (state : σ) (items : List α) :
    for_each body state (items.filter keep) = for_each body state items := by
  induction items generalizing state with
  | nil => rfl
  | cons item rest ih =>
    by_cases hkeep : keep item = true
    · simp only [List.filter_cons_of_pos hkeep, for_each_cons]
      congr 1
      funext state _
      exact ih state
    · have hskipped := hskip state item (by simpa using hkeep)
      simp only [List.filter_cons_of_neg hkeep, for_each_cons, hskipped, andThen_ok]
      exact ih state

/-- A loop that ends early does so at one item, after the body came back for
every item before it and without running for any after it. -/
theorem for_each_eq_err_iff {body : σ → α → MutCall σ ε Unit} {state last : σ} {items : List α}
    {error : ε} :
    for_each body state items = (last, .err error) ↔
      ∃ front item back before, items = front ++ item :: back ∧
        for_each body state front = (before, .ok ()) ∧ body before item = (last, .err error) := by
  constructor
  · intro hloop
    induction items generalizing state with
    | nil => simp at hloop
    | cons item rest ih =>
      rw [for_each_cons] at hloop
      rcases hbody : body state item with ⟨next, ⟨⟩ | failure | _⟩
      · rw [hbody, andThen_ok] at hloop
        obtain ⟨front, stop, back, before, rfl, hfront, hstop⟩ := ih hloop
        refine ⟨item :: front, stop, back, before, rfl, ?_, hstop⟩
        rw [for_each_cons, hbody, andThen_ok, hfront]
      · rw [hbody, andThen_err] at hloop
        exact ⟨[], item, rest, state, rfl, rfl, hbody.trans hloop⟩
      · rw [hbody, andThen_panic] at hloop
        simp at hloop
  · rintro ⟨front, item, back, before, rfl, hfront, hitem⟩
    rw [for_each_append, hfront, andThen_ok, for_each_cons, hitem, andThen_err]

/-- A loop comes back if its body does. -/
theorem for_each_ne_panic {body : σ → α → MutCall σ ε Unit}
    (hbody : ∀ state item, (body state item).2 ≠ .panic) (state : σ) (items : List α) :
    (for_each body state items).2 ≠ .panic := by
  induction items generalizing state with
  | nil => simp
  | cons item rest ih =>
    have hitem := hbody state item
    rw [for_each_cons]
    rcases hrun : body state item with ⟨next, ⟨⟩ | failure | _⟩
    · exact ih next
    · simp
    · simp [hrun] at hitem

/-- Naming a loop's failure after it is naming each pass's. -/
theorem for_each_map_err (f : ε → ε') (body : σ → α → MutCall σ ε Unit) (state : σ)
    (items : List α) :
    for_each (fun state item => (body state item).map_err f) state items =
      (for_each body state items).map_err f := by
  induction items generalizing state with
  | nil => rfl
  | cons item rest ih =>
    rw [for_each_cons, for_each_cons]
    rcases body state item with ⟨next, ⟨⟩ | failure | _⟩
    · exact ih next
    · rfl
    · rfl

end

end calls
