import AngzarrRouter.Declared
import AngzarrRouter.Upcaster.Chains
import Mathlib.Order.Basic

open calls
open angzarr_router.error

namespace angzarr_router.upcaster.UpcasterDispatch

variable [AngzarrProto] {R : Type} [Preorder R] {self : UpcasterDispatch} {rank : String → R}
  {applied applied' : List String} {current next : Any} {thunk : RuleFn}

/-- The rules only go forward: what a rule answers is of a type ranked above the
rule's own. -/
def GoesForward (self : UpcasterDispatch) (rank : String → R) : Prop :=
  ∀ ⦃payload name next⦄, self.Applies payload name next →
    rank name < rank (type_name_from_url next.type_url)

/-- The rules applied so far rank below the payload they brought it to. -/
def Behind (rank : String → R) (applied : List String) (current : Any) : Prop :=
  ∀ name ∈ applied, rank name < rank (type_name_from_url current.type_url)

omit [AngzarrProto] in
/-- No rule behind a payload is the one registered for its type. -/
theorem Behind.fresh (hbehind : Behind rank applied current) :
    type_name_from_url current.type_url ∉ applied :=
  fun hused => lt_irrefl _ (hbehind _ hused)

/-- One more rule leaves every applied one behind what it answers. -/
theorem Behind.append (hforward : self.GoesForward rank) (hbehind : Behind rank applied current)
    (happlies : self.Applies current (type_name_from_url current.type_url) next) :
    Behind rank (applied ++ [type_name_from_url current.type_url]) next := by
  intro name hname
  have hstep := hforward happlies
  obtain hbefore | hlast := List.mem_append.mp hname
  · exact (hbehind name hbefore).trans hstep
  · rwa [List.mem_singleton.mp hlast]

theorem upcast_loop_of_no_rule (hrule : self.rules[type_name_from_url current.type_url]? = none) :
    self.upcast_loop applied current = (applied, .ok current) := by
  rw [upcast_loop]
  split
  · rfl
  · rename_i thunk hsome
    rw [hrule] at hsome
    cases hsome

/-- A rule that was not applied yet runs, and the loop goes on from its answer. -/
theorem upcast_loop_of_fresh
    (hrule : self.rules[type_name_from_url current.type_url]? = some thunk)
    (hfresh : type_name_from_url current.type_url ∉ applied) :
    (self.upcast_loop applied current).2 = call_handler (thunk current) >>= fun next =>
      (self.upcast_loop (applied ++ [type_name_from_url current.type_url]) next).2 := by
  rw [upcast_loop]
  split
  · rename_i hnone
    rw [hrule] at hnone
    cases hnone
  · rename_i found hfound
    obtain rfl : thunk = found := Option.some.inj (hrule.symm.trans hfound)
    rw [dif_neg hfresh]
    cases call_handler (thunk current) <;> rfl

/-- Which rules were applied before makes no difference to a payload that is
ahead of them all. -/
theorem upcast_loop_congr (hforward : self.GoesForward rank) (hbehind : Behind rank applied current)
    (hbehind' : Behind rank applied' current) :
    (self.upcast_loop applied current).2 = (self.upcast_loop applied' current).2 := by
  fun_induction upcast_loop self applied current generalizing applied'
  case case1 applied current name hrule => rw [upcast_loop_of_no_rule hrule]
  case case2 applied current name thunk hrule hused => exact absurd hused hbehind.fresh
  case case3 applied current name thunk hrule hfresh next hnext ih =>
    have happlies : self.Applies current name next := ⟨rfl, thunk, hrule, hnext⟩
    rw [upcast_loop_of_fresh hrule hbehind'.fresh, hnext, Outcome.ok_bind]
    exact ih (hbehind.append hforward happlies) (hbehind'.append hforward happlies)
  case case4 applied current name thunk hrule hfresh error herror =>
    rw [upcast_loop_of_fresh hrule hbehind'.fresh, herror, Outcome.err_bind]
  case case5 applied current name thunk hrule hfresh hpanic =>
    exact absurd hpanic (call_handler_ne_panic _)

/-- What the loop brings such a payload to has no rule. -/
theorem no_rule_of_upcast_loop_ok (hforward : self.GoesForward rank)
    (hbehind : Behind rank applied current) {brought : Any}
    (hloop : (self.upcast_loop applied current).2 = .ok brought) :
    self.rules[type_name_from_url brought.type_url]? = none := by
  fun_induction upcast_loop self applied current with
  | case1 applied current name hrule =>
    obtain rfl := Outcome.ok.inj hloop
    exact hrule
  | case2 applied current name thunk hrule hused => exact absurd hused hbehind.fresh
  | case3 applied current name thunk hrule hfresh next hnext ih =>
    have happlies : self.Applies current name next := ⟨rfl, thunk, hrule, hnext⟩
    exact ih (hbehind.append hforward happlies) hloop
  | case4 => cases hloop
  | case5 => cases hloop

/-- Where rules only go forward, upcasting is idempotent and independent of the
stored version: what a payload is brought to has no rule and is brought to
itself, and a payload is brought to what the rule for its type makes of it is,
or fails as that does. -/
theorem upcast_is_idempotent_and_version_free (hforward : self.GoesForward rank) :
    (∀ payload brought, self.upcast payload = .ok brought →
      self.rules[type_name_from_url brought.type_url]? = none ∧
        self.upcast brought = .ok brought) ∧
    ∀ payload name next, self.Applies payload name next →
      self.upcast payload = self.upcast next := by
  have hnothing (payload : Any) : Behind rank [] payload := fun name hname => by cases hname
  refine ⟨fun payload brought hupcast => ?_, fun payload name next happlies => ?_⟩
  · have hdone := no_rule_of_upcast_loop_ok hforward (hnothing payload) hupcast
    refine ⟨hdone, ?_⟩
    rw [upcast, upcast_loop_of_no_rule hdone]
  · have hstep := happlies
    obtain ⟨rfl, thunk, hrule, hnext⟩ := hstep
    rw [upcast, upcast_loop_of_fresh hrule (hnothing payload).fresh, hnext, Outcome.ok_bind]
    exact upcast_loop_congr hforward ((hnothing payload).append hforward happlies) (hnothing next)

end angzarr_router.upcaster.UpcasterDispatch

namespace angzarr_router.upcaster

open UpcasterDispatch declared

namespace shelf

/-- An `Added` event as a version of it was stored. -/
def added (version : String) : Any := { type_url := "/shop.Added." ++ version, value := [] }

/-- Brings a first version to the second, and the second to the third. -/
def versions : UpcasterDispatch :=
  (UpcasterDispatch.new.rule "shop.Added.v1" fun _ => .ok (added "v2")).rule "shop.Added.v2"
    fun _ => .ok (added "v3")

def version (name : String) : Nat :=
  if name = "shop.Added.v1" then 1 else if name = "shop.Added.v2" then 2 else 3

theorem goes_forward : versions.GoesForward version := by
  rintro payload name next ⟨_, thunk, hrule, hnext⟩
  simp only [versions, rule, UpcasterDispatch.new, Std.ExtTreeMap.getElem?_insert,
    Std.LawfulEqOrd.compare_eq_iff_eq] at hrule
  split at hrule
  · rename_i hname
    obtain rfl := Option.some.inj hrule
    obtain rfl := Outcome.ok.inj hnext
    subst hname
    decide
  · split at hrule
    · rename_i hname
      obtain rfl := Option.some.inj hrule
      obtain rfl := Outcome.ok.inj hnext
      subst hname
      decide
    · simp at hrule

end shelf

/-- A first version and a second are brought to one third, which stays. -/
theorem upcast_is_idempotent_and_version_free_shelf :
    shelf.versions.upcast (shelf.added "v1") = shelf.versions.upcast (shelf.added "v2") := by
  have hfree := (upcast_is_idempotent_and_version_free shelf.goes_forward).2
  exact hfree (shelf.added "v1") "shop.Added.v1" (shelf.added "v2")
    ⟨by decide, fun _ => .ok (shelf.added "v2"), rfl, rfl⟩

end angzarr_router.upcaster
