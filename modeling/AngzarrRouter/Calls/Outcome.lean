import Mathlib.Tactic.Common

namespace calls

/-- How a call comes back: with a value, with an error, or not at all, because
it unwinds. -/
inductive Outcome (ε α : Type) where
  | ok (value : α)
  | err (error : ε)
  | panic
deriving DecidableEq, Repr

namespace Outcome

variable {ε ε' α β γ : Type}

/-- `Result::map`; unwinding passes through. -/
def map (f : α → β) : Outcome ε α → Outcome ε β
  | ok value => ok (f value)
  | err error => err error
  | panic => panic

/-- `Result::map_err`; unwinding passes through. -/
def map_err (f : ε → ε') : Outcome ε α → Outcome ε' α
  | ok value => ok value
  | err error => err (f error)
  | panic => panic

/-- The `?` operator: what follows runs on the value, and an error or an
unwinding ends the caller too. -/
protected def bind (x : Outcome ε α) (f : α → Outcome ε β) : Outcome ε β :=
  match x with
  | ok value => f value
  | err error => err error
  | panic => panic

instance : Monad (Outcome ε) where
  pure := ok
  bind := Outcome.bind

/-- `std::panic::catch_unwind`: an unwinding becomes a value of the caller's. Its
payload is dropped there; an `Outcome` carries none, so a payload whose drop
panics in turn is none of these. -/
def catch_unwind : Outcome ε α → Except Unit (Except ε α)
  | ok value => .ok (.ok value)
  | err error => .ok (.error error)
  | panic => .error ()

@[simp] theorem pure_eq_ok (value : α) : (pure value : Outcome ε α) = ok value := rfl

@[simp] theorem ok_bind (value : α) (f : α → Outcome ε β) : (ok value >>= f) = f value := rfl

@[simp] theorem err_bind (error : ε) (f : α → Outcome ε β) : (err error >>= f) = err error := rfl

@[simp] theorem panic_bind (f : α → Outcome ε β) : ((panic : Outcome ε α) >>= f) = panic := rfl

@[simp] theorem map_ok (f : α → β) (value : α) : map f (ok value : Outcome ε α) = ok (f value) := rfl

@[simp] theorem map_error (f : α → β) (error : ε) : map f (err error) = err error := rfl

@[simp] theorem map_panic (f : α → β) : map f (panic : Outcome ε α) = panic := rfl

@[simp] theorem map_err_ok (f : ε → ε') (value : α) : map_err f (ok value) = ok value := rfl

@[simp] theorem map_err_err (f : ε → ε') (error : ε) :
    map_err f (err error : Outcome ε α) = err (f error) := rfl

@[simp] theorem map_err_panic (f : ε → ε') : map_err f (panic : Outcome ε α) = panic := rfl

@[simp] theorem catch_unwind_ok (value : α) :
    catch_unwind (ok value : Outcome ε α) = .ok (.ok value) := rfl

@[simp] theorem catch_unwind_err (error : ε) :
    catch_unwind (err error : Outcome ε α) = .ok (.error error) := rfl

@[simp] theorem catch_unwind_panic : catch_unwind (panic : Outcome ε α) = .error () := rfl

theorem map_bind (x : Outcome ε α) (f : α → β) (g : β → Outcome ε γ) :
    (x.map f >>= g) = x >>= fun a => g (f a) := by
  cases x <;> rfl

theorem bind_eq_ok_iff {x : Outcome ε α} {f : α → Outcome ε β} {b : β} :
    (x >>= f) = ok b ↔ ∃ a, x = ok a ∧ f a = ok b := by
  cases x <;> simp

theorem bind_eq_err_iff {x : Outcome ε α} {f : α → Outcome ε β} {e : ε} :
    (x >>= f) = err e ↔ x = err e ∨ ∃ a, x = ok a ∧ f a = err e := by
  cases x <;> simp

theorem bind_eq_panic_iff {x : Outcome ε α} {f : α → Outcome ε β} :
    (x >>= f) = panic ↔ x = panic ∨ ∃ a, x = ok a ∧ f a = panic := by
  cases x <;> simp

theorem map_eq_ok_iff {x : Outcome ε α} {f : α → β} {b : β} :
    map f x = ok b ↔ ∃ a, x = ok a ∧ f a = b := by
  cases x <;> simp

theorem map_err_eq_err_iff {x : Outcome ε α} {f : ε → ε'} {e : ε'} :
    map_err f x = err e ↔ ∃ cause, x = err cause ∧ f cause = e := by
  cases x <;> simp

theorem map_err_eq_panic_iff {x : Outcome ε α} {f : ε → ε'} :
    map_err f x = panic ↔ x = panic := by
  cases x <;> simp

end Outcome

/-- Whether integer arithmetic that overflows unwinds (Cargo's `dev` profile)
or wraps (its `release` profile). -/
class BuildProfile where
  overflow_checks : Bool

/-- `a + n` on `u64`, `n` a literal or a length. -/
def u64_add [BuildProfile] {ε : Type} (a : UInt64) (n : Nat) : Outcome ε UInt64 :=
  if BuildProfile.overflow_checks && decide (UInt64.size ≤ a.toNat + n) then .panic
  else .ok (a + UInt64.ofNat n)

/-- `a + n` comes back: it fits `u64`, or nothing checks that it does. -/
def U64Room [BuildProfile] (a : UInt64) (n : Nat) : Prop :=
  BuildProfile.overflow_checks = true → a.toNat + n < UInt64.size

section

variable [BuildProfile] {ε : Type}

theorem u64_add_eq_ok_iff {a c : UInt64} {n : Nat} :
    u64_add a n = (.ok c : Outcome ε UInt64) ↔ U64Room a n ∧ c = a + UInt64.ofNat n := by
  unfold u64_add U64Room
  by_cases hchecks : BuildProfile.overflow_checks = true
  · by_cases hroom : UInt64.size ≤ a.toNat + n
    · have hnot : ¬ a.toNat + n < UInt64.size := by omega
      simp [hchecks, hroom, hnot]
    · have hfits : a.toNat + n < UInt64.size := by omega
      simp [hchecks, hroom, hfits, eq_comm]
  · simp [hchecks, eq_comm]

theorem u64_add_of_room {a : UInt64} {n : Nat} (hroom : U64Room a n) :
    u64_add a n = (.ok (a + UInt64.ofNat n) : Outcome ε UInt64) :=
  u64_add_eq_ok_iff.mpr ⟨hroom, rfl⟩

theorem u64_add_of_not_room {a : UInt64} {n : Nat} (hroom : ¬ U64Room a n) :
    u64_add a n = (.panic : Outcome ε UInt64) := by
  unfold U64Room at hroom
  push Not at hroom
  simp [u64_add, hroom.1, hroom.2]

theorem U64Room.zero (a : UInt64) : U64Room a 0 := fun _ => a.toNat_lt_size

/-- Room for `m + n` from `a` is room for `m`, and for `n` from there. -/
theorem U64Room.add_iff {a : UInt64} {m n : Nat} :
    U64Room a (m + n) ↔ U64Room a m ∧ U64Room (a + UInt64.ofNat m) n := by
  by_cases hchecks : BuildProfile.overflow_checks = true
  · simp only [U64Room, hchecks, forall_const]
    constructor
    · intro hroom
      have hlt : a.toNat + m < UInt64.size := by omega
      have hm : (UInt64.ofNat m).toNat = m := UInt64.toNat_ofNat_of_lt (by omega)
      have hsum : (a + UInt64.ofNat m).toNat = a.toNat + m := by
        rw [UInt64.toNat_add, hm]
        exact Nat.mod_eq_of_lt hlt
      omega
    · rintro ⟨hlt, hroom⟩
      have hm : (UInt64.ofNat m).toNat = m := UInt64.toNat_ofNat_of_lt (by omega)
      have hsum : (a + UInt64.ofNat m).toNat = a.toNat + m := by
        rw [UInt64.toNat_add, hm]
        exact Nat.mod_eq_of_lt hlt
      omega
  · simp [U64Room, hchecks]

end

end calls
