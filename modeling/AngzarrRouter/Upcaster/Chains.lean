import AngzarrRouter.Calls.Chain
import AngzarrRouter.Upcaster

open calls
open angzarr_router.error

namespace angzarr_router.upcaster.UpcasterDispatch

variable [AngzarrProto]

/-- The rule registered for a payload's type brings it to `next`. -/
def Applies (self : UpcasterDispatch) (payload : Any) (name : String) (next : Any) : Prop :=
  name = type_name_from_url payload.type_url ∧
    ∃ thunk, self.rules[name]? = some thunk ∧ call_handler (thunk payload) = .ok next

theorem applies_deterministic (self : UpcasterDispatch) : Deterministic self.Applies := by
  intro payload name name' next next' happlies happlies'
  obtain ⟨rfl, thunk, hrule, hnext⟩ := happlies
  obtain ⟨rfl, thunk', hrule', hnext'⟩ := happlies'
  obtain rfl : thunk = thunk' := Option.some.inj (hrule.symm.trans hrule')
  exact ⟨rfl, Outcome.ok.inj (hnext.symm.trans hnext')⟩

/-- How the loop ends once `names` have been applied and brought the payload to
`last`: no other rule is registered for it, or the one that is fails, the last
to run. -/
inductive LoopEnds (self : UpcasterDispatch) (names : List String) (last : Any) :
    List String × Outcome CodedError Any → Prop where
  | done (hdone : ∀ thunk, self.rules[type_name_from_url last.type_url]? = some thunk →
      type_name_from_url last.type_url ∈ names) : LoopEnds self names last (names, .ok last)
  | failed {thunk : RuleFn} {error : CodedError}
      (hrule : self.rules[type_name_from_url last.type_url]? = some thunk)
      (hfresh : type_name_from_url last.type_url ∉ names)
      (hfails : call_handler (thunk last) = .err error) :
      LoopEnds self names last (names ++ [type_name_from_url last.type_url], .err error)

/-- The loop applies the rules of a chain, none of them applied before. -/
theorem upcast_loop_spec (self : UpcasterDispatch) (applied : List String) (current : Any)
    (happlied : applied.Nodup) :
    ∃ names last, Chain self.Applies names current last ∧ (applied ++ names).Nodup ∧
      self.LoopEnds (applied ++ names) last (self.upcast_loop applied current) := by
  fun_induction upcast_loop with
  | case1 applied current name hrule =>
    refine ⟨[], current, .here current, by simpa using happlied, ?_⟩
    rw [List.append_nil]
    exact .done fun thunk hthunk => by simp [name, hrule] at hthunk
  | case2 applied current name thunk hrule hused =>
    refine ⟨[], current, .here current, by simpa using happlied, ?_⟩
    rw [List.append_nil]
    exact .done fun _ _ => hused
  | case3 applied current name thunk hrule hfresh next hnext ih =>
    have hapart : (applied ++ [name]).Nodup :=
      List.nodup_append_comm.mp (List.nodup_cons.mpr ⟨hfresh, happlied⟩)
    obtain ⟨names, last, hchain, hnodup, hends⟩ := ih hapart
    refine ⟨name :: names, last, .step ⟨rfl, thunk, hrule, hnext⟩ hchain, ?_, ?_⟩
    · simpa using hnodup
    · simpa using hends
  | case4 applied current name thunk hrule hfresh error herror =>
    refine ⟨[], current, .here current, by simpa using happlied, ?_⟩
    rw [List.append_nil]
    exact .failed hrule hfresh herror
  | case5 applied current name thunk hrule hfresh hpanic =>
    exact absurd hpanic (call_handler_ne_panic _)

/-- What the loop has applied is registered, each rule once: it ends after as
many rules as there are, at most. -/
theorem LoopEnds.applied_le {self : UpcasterDispatch} {names : List String} {payload last : Any}
    {result : List String × Outcome CodedError Any} (hends : self.LoopEnds names last result)
    (hchain : Chain self.Applies names payload last) (hnodup : names.Nodup) :
    result.1.Nodup ∧ result.1.length ≤ self.rules.size := by
  have hregistered : ∀ name ∈ names, name ∈ self.rules.keys := by
    clear hnodup hends
    induction hchain with
    | here => simp
    | step happlies _ ih =>
      obtain ⟨_, thunk, hrule, _⟩ := happlies
      intro name hname
      obtain rfl | hlater := List.mem_cons.mp hname
      · exact Std.ExtTreeMap.mem_keys.mpr
          (Std.ExtTreeMap.mem_iff_isSome_getElem?.mpr (by simp [hrule]))
      · exact ih name hlater
  rw [← Std.ExtTreeMap.length_keys]
  cases hends with
  | done => exact ⟨hnodup, hnodup.length_le_of_subset hregistered⟩
  | @failed thunk error hrule hfresh _ =>
    have hapart : (names ++ [type_name_from_url last.type_url]).Nodup :=
      List.nodup_append_comm.mp (List.nodup_cons.mpr ⟨hfresh, hnodup⟩)
    refine ⟨hapart, hapart.length_le_of_subset ?_⟩
    intro name hname
    obtain hbefore | hlast := List.mem_append.mp hname
    · exact hregistered name hbefore
    · obtain rfl := List.mem_singleton.mp hlast
      exact Std.ExtTreeMap.mem_keys.mpr
        (Std.ExtTreeMap.mem_iff_isSome_getElem?.mpr (by simp [hrule]))

/-- The chain the loop applies is the longest there is. -/
theorem LoopEnds.longest {self : UpcasterDispatch} {names : List String} {payload last : Any}
    {result : List String × Outcome CodedError Any} (hends : self.LoopEnds names last result)
    (hchain : Chain self.Applies names payload last) (hnodup : names.Nodup) :
    LongestOnce self.Applies names payload last := by
  refine .of_stuck self.applies_deterministic hchain hnodup fun name next happlies => ?_
  obtain ⟨rfl, thunk, hrule, hnext⟩ := happlies
  cases hends with
  | done hdone => exact hdone thunk hrule
  | @failed thunk' error hrule' _ hfails =>
    obtain rfl : thunk' = thunk := Option.some.inj (hrule'.symm.trans hrule)
    rw [hfails] at hnext
    cases hnext

/-- An upcast comes back, whatever its rules do. -/
theorem upcast_ne_panic (self : UpcasterDispatch) (payload : Any) :
    self.upcast payload ≠ .panic := by
  obtain ⟨names, last, _, _, hends⟩ := self.upcast_loop_spec [] payload List.nodup_nil
  intro hpanic
  rw [upcast] at hpanic
  generalize self.upcast_loop [] payload = result at hends hpanic
  cases hends <;> cases hpanic

/-- A requested page's entry: keyed by the page's own sequence, its payload the
upcast of the page's own event, and none when it has none. -/
def Answers (self : UpcasterDispatch) (page : pb.EventPage) (entry : hpb.Upcasted) : Prop :=
  entry.key = some (.Sequence page.sequence) ∧
    ((page_event page = none ∧ entry.payload = none) ∨
      ∃ event payload, page_event page = some event ∧ self.upcast event = .ok payload ∧
        entry.payload = some payload)

/-- A page is answered by what its event is brought to. -/
theorem upcast_page_eq_ok_iff (self : UpcasterDispatch) {page : pb.EventPage}
    {entry : hpb.Upcasted} : self.upcast_page page = .ok entry ↔ self.Answers page entry := by
  obtain ⟨key, payload⟩ := entry
  unfold upcast_page Answers
  cases hevent : page_event page with
  | none => simp [eq_comm]
  | some event =>
    simp only [Outcome.map_eq_ok_iff, hpb.Upcasted.mk.injEq, reduceCtorEq, false_and, false_or,
      Option.some.injEq, exists_and_left, exists_eq_left']
    constructor
    · rintro ⟨brought, hupcast, rfl, rfl⟩
      exact ⟨rfl, brought, hupcast, rfl⟩
    · rintro ⟨rfl, brought, hupcast, rfl⟩
      exact ⟨brought, hupcast, rfl, rfl⟩

/-- It fails where its event does. -/
theorem upcast_page_eq_err_iff (self : UpcasterDispatch) {page : pb.EventPage} {error : CodedError} :
    self.upcast_page page = .err error ↔
      ∃ event, page_event page = some event ∧ self.upcast event = .err error := by
  unfold upcast_page
  cases hevent : page_event page with
  | none => simp
  | some event => cases hupcast : self.upcast event <;> simp [hupcast]

theorem upcast_page_ne_panic (self : UpcasterDispatch) (page : pb.EventPage) :
    self.upcast_page page ≠ .panic := by
  unfold upcast_page
  cases hevent : page_event page with
  | none => simp
  | some event =>
    cases hupcast : self.upcast event with
    | ok payload => simp [hupcast]
    | err error => simp [hupcast]
    | panic => exact absurd hupcast (self.upcast_ne_panic event)

/-- The upcaster ends, and answers completely. A payload is brought to the end of
the longest chain of distinct rules its type starts, whatever types the rules
answer, or fails as a rule registered for that end does: no rule runs twice,
and no more of them than there are. A list of pages is answered one entry a
page, in the request's order, each keyed by its page's sequence with the upcast
of its page's event alone, or fails as the first page that fails does. -/
theorem upcast_is_keyed_complete_and_ends (self : UpcasterDispatch) :
    (∀ payload, ∃ names last ran, LongestOnce self.Applies names payload last ∧
      (∀ names' last', LongestOnce self.Applies names' payload last' → names = names' ∧ last = last') ∧
      self.upcast_loop [] payload = (ran, self.upcast payload) ∧
      self.LoopEnds names last (ran, self.upcast payload) ∧
      ran.Nodup ∧ ran.length ≤ self.rules.size) ∧
    ∀ events : List pb.EventPage,
      (∀ resp, self.dispatch { input := some (.Pages { events }) } = .ok resp ↔
        List.Forall₂ self.Answers events resp.pages) ∧
      (∀ error, self.dispatch { input := some (.Pages { events }) } = .err error ↔
        ∃ front page back event, events = front ++ page :: back ∧
          (∀ earlier ∈ front, ∃ entry, self.Answers earlier entry) ∧
          page_event page = some event ∧ self.upcast event = .err error) ∧
      self.dispatch { input := some (.Pages { events }) } ≠ .panic := by
  refine ⟨fun payload => ?_, fun events => ?_⟩
  · obtain ⟨names, last, hchain, hnodup, hends⟩ := self.upcast_loop_spec [] payload List.nodup_nil
    obtain ⟨hran, hlength⟩ := hends.applied_le hchain hnodup
    have hlongest := hends.longest hchain hnodup
    exact ⟨names, last, _, hlongest, fun _ _ => hlongest.unique self.applies_deterministic, rfl, hends,
      hran, hlength⟩
  · have hdispatch : self.dispatch { input := some (.Pages { events }) } =
        (collect self.upcast_page events).map fun pages => { pages } := by
      simp only [dispatch]
      cases collect self.upcast_page events <;> rfl
    rw [hdispatch]
    refine ⟨fun resp => ?_, fun error => ?_, ?_⟩
    · obtain ⟨pages⟩ := resp
      simp only [Outcome.map_eq_ok_iff, hpb.UpcastResponse.mk.injEq, exists_eq_right,
        collect_eq_ok_iff, upcast_page_eq_ok_iff]
    · have herror : (collect self.upcast_page events).map (fun pages => hpb.UpcastResponse.mk pages) =
          .err error ↔ collect self.upcast_page events = .err error := by
        cases collect self.upcast_page events <;> simp
      simp only [herror, collect_eq_err_iff, upcast_page_eq_ok_iff, upcast_page_eq_err_iff,
        exists_and_left]
    · have hback := collect_ne_panic self.upcast_page_ne_panic events
      cases hcollect : collect self.upcast_page events with
      | ok pages => simp
      | err error => simp
      | panic => exact absurd hcollect hback

end angzarr_router.upcaster.UpcasterDispatch
