import AngzarrRouter.Calls.Collect
import AngzarrRouter.Error

open calls
open angzarr_router.error

namespace angzarr_router.upcaster

/-- One rule: an old payload, its type named by the rule's key, to a newer
shape. -/
abbrev RuleFn : Type := Any → Outcome HandlerError Any

/-- The rules of one domain's upcaster. -/
structure UpcasterDispatch where
  rules : Table RuleFn

namespace UpcasterDispatch

/-- An upcaster with no rules. -/
def new : UpcasterDispatch := { rules := ∅ }

/-- Registers the rule for payloads of the type `full_name`. -/
def rule (self : UpcasterDispatch) (full_name : String) (thunk : RuleFn) : UpcasterDispatch :=
  { self with rules := self.rules.insert full_name thunk }

/-- The registered names that are not `applied` yet. -/
def unapplied (self : UpcasterDispatch) (applied : List String) : List String :=
  self.rules.keys.filter fun name => name ∉ applied

/-- Applying a registered rule leaves fewer unapplied. -/
theorem unapplied_lt (self : UpcasterDispatch) {applied : List String} {name : String}
    {thunk : RuleFn} (hrule : self.rules[name]? = some thunk) (hfresh : name ∉ applied) :
    (self.unapplied (applied ++ [name])).length < (self.unapplied applied).length := by
  have hapart : self.unapplied (applied ++ [name]) =
      (self.unapplied applied).filter fun other => other ≠ name := by
    simp only [unapplied, List.filter_filter]
    refine List.filter_congr fun other _ => ?_
    simp [and_comm]
  have hmem : name ∈ self.unapplied applied := by
    have hkey : name ∈ self.rules := Std.ExtTreeMap.mem_iff_isSome_getElem?.mpr (by simp [hrule])
    simp [unapplied, hkey, hfresh]
  rw [hapart, List.length_filter_lt_length_iff_exists]
  exact ⟨name, hmem, by simp⟩

variable [AngzarrProto]

/-- `upcast`'s loop, over the rules `applied` and the payload they brought it to. -/
def upcast_loop (self : UpcasterDispatch) (applied : List String) (current : Any) :
    List String × Outcome CodedError Any :=
  let name := type_name_from_url current.type_url
  match _hrule : self.rules[name]? with
  | none => (applied, .ok current)
  | some thunk =>
    if _hused : name ∈ applied then (applied, .ok current)
    else
      match call_handler (thunk current) with
      | .ok next => self.upcast_loop (applied ++ [name]) next
      | .err error => (applied ++ [name], .err error)
      | .panic => (applied ++ [name], .panic)
termination_by (self.unapplied applied).length
decreasing_by exact self.unapplied_lt _hrule _hused

/-- `payload` brought through every rule its type reaches, in turn, each rule at
most once: as is when none applies. -/
def upcast (self : UpcasterDispatch) (payload : Any) : Outcome CodedError Any :=
  (self.upcast_loop [] payload).2

/-- A page's entry: keyed by its sequence, and with no payload when its body is
no domain event. -/
def upcast_page (self : UpcasterDispatch) (page : pb.EventPage) : Outcome CodedError hpb.Upcasted :=
  let key := some (hpb.upcasted.Key.Sequence page.sequence)
  match page_event page with
  | some event => (self.upcast event).map fun payload => { key, payload := some payload }
  | none => .ok { key, payload := none }

/-- `UpcasterService.Upcast`. -/
def dispatch (self : UpcasterDispatch) (req : hpb.UpcastRequest) :
    Outcome CodedError hpb.UpcastResponse := do
  let pages ← match req.input with
    | none => .ok []
    | some (.LonePayload payload) =>
      (self.upcast payload).map fun payload => [{ key := some .NoSequence, payload := some payload }]
    | some (.Pages pages) => collect self.upcast_page pages.events
  .ok { pages }

end UpcasterDispatch

end angzarr_router.upcaster
