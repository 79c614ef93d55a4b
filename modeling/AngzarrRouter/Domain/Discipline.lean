import AngzarrRouter.Calls.Trace
import AngzarrRouter.Domain.Snapshots

open calls calls.MutCall
open angzarr_router.error angzarr_router.context angzarr_router.rebuild

namespace angzarr_router.rebuild

variable {S : Type}

/-- Registering an applier changes that of its name alone. -/
theorem Rebuilder.getElem?_apply (self : Rebuilder S) (full_name name : String)
    (thunk : S → Any → MutCall S BoxError Unit) :
    (self.apply full_name thunk).appliers[name]? =
      if name = full_name then some fun state any _ => thunk state any else self.appliers[name]? := by
  rw [Rebuilder.apply, Rebuilder.apply_with_context, Std.ExtTreeMap.getElem?_insert]
  by_cases hsame : name = full_name
  · subst hsame
    rw [if_pos Std.ReflCmp.compare_self, if_pos rfl]
  · rw [if_neg fun heq => hsame (Std.LawfulEqCmp.eq_of_compare heq).symm, if_neg hsame]

/-- A page that folds does so by its applier, which came back. -/
theorem Rebuilder.visit_eq_ok [AngzarrProto] {self : Rebuilder S} {cover : Option pb.Cover}
    {state after : S} {page : pb.EventPage} (hvisit : self.visit cover state page = (after, .ok ())) :
    self.applier_of page = none ∧ after = state ∨
      ∃ event thunk, page_event page = some event ∧
        self.appliers[type_name_from_url event.type_url]? = some thunk ∧
        thunk state event { cover, sequence := page.sequence, event_meta := page.event_meta } =
          (after, .ok ()) := by
  cases happlier : self.applier_of page with
  | none =>
    rw [Rebuilder.visit, happlier] at hvisit
    exact .inl ⟨rfl, (Prod.mk.inj hvisit).1.symm⟩
  | some found =>
    obtain ⟨event, thunk⟩ := found
    obtain ⟨carried, hevent, hfound⟩ := Option.bind_eq_some_iff.mp happlier
    obtain ⟨registered, hregistered, hsame⟩ := Option.map_eq_some_iff.mp hfound
    obtain ⟨rfl, rfl⟩ := Prod.mk.inj hsame
    refine .inr ⟨carried, registered, hevent, hregistered, ?_⟩
    rw [Rebuilder.visit, happlier] at hvisit
    dsimp only [run_applier] at hvisit
    rcases hran : registered state carried
      { cover, sequence := page.sequence, event_meta := page.event_meta } with ⟨next, ⟨⟩ | error | _⟩
    · rw [hran] at hvisit
      obtain ⟨rfl, _⟩ := Prod.mk.inj hvisit
      rfl
    · rw [hran] at hvisit
      cases hvisit
    · rw [hran] at hvisit
      cases hvisit

end angzarr_router.rebuild

namespace angzarr_router.domain

variable {S : Type}

open DomainDispatch

/-- A request is routed to the handler registered in its arm for its payload's
type. -/
theorem DomainDispatch.thunk_of_route [AngzarrProto] (self : DomainDispatch S)
    {page : Option pb.CommandPage} {untyped any : Any} {dispatched : Dispatched S}
    (hroute : self.route page untyped = .ok (dispatched, any)) :
    self.handlers[type_name_from_url any.type_url]? = some dispatched.thunk ∨
      self.facts[type_name_from_url any.type_url]? = some dispatched.thunk := by
  unfold route at hroute
  split at hroute
  · dsimp only at hroute
    split at hroute
    · rename_i thunk hthunk
      cases hroute
      exact .inr hthunk
    · cases hroute
  · dsimp only at hroute
    split at hroute
    · rename_i thunk hthunk
      cases hroute
      exact .inl hthunk
    · cases hroute

/-- A command's handler is the one just registered, or one from before. -/
theorem DomainDispatch.getElem?_on_command {self : DomainDispatch S} {full_name name : String}
    {thunk found : HandlerFn S} (hfound : (self.on_command full_name thunk).handlers[name]? = some found) :
    name = full_name ∧ found = thunk ∨ self.handlers[name]? = some found := by
  rw [on_command, Std.ExtTreeMap.getElem?_insert] at hfound
  split at hfound
  · rename_i hsame
    exact .inl ⟨(Std.LawfulEqCmp.eq_of_compare hsame).symm, (Option.some.inj hfound).symm⟩
  · exact .inr hfound

/-- So is a fact's. -/
theorem DomainDispatch.getElem?_on_fact {self : DomainDispatch S} {full_name name : String}
    {thunk found : HandlerFn S} (hfound : (self.on_fact full_name thunk).facts[name]? = some found) :
    name = full_name ∧ found = thunk ∨ self.facts[name]? = some found := by
  rw [on_fact, Std.ExtTreeMap.getElem?_insert] at hfound
  split at hfound
  · rename_i hsame
    exact .inl ⟨(Std.LawfulEqCmp.eq_of_compare hsame).symm, (Option.some.inj hfound).symm⟩
  · exact .inr hfound

/-- What the business code of a domain is meant to keep to: the states it may
be run on, and the events it may record on each. -/
structure Discipline (S : Type) where
  good : S → Prop
  legal : S → Any → Prop

/-- An event takes a state to another: on some page that carries it, wherever
the page stands. -/
def Takes [AngzarrProto] (rebuilder : Rebuilder S) (state : S) (event : Any) (after : S) : Prop :=
  ∃ cover page, page_event page = some event ∧ rebuilder.visit cover state page = (after, .ok ())

/-- Events, in order, take a state to another. -/
inductive TakesAll [AngzarrProto] (rebuilder : Rebuilder S) : S → List Any → S → Prop where
  | nil (state : S) : TakesAll rebuilder state [] state
  | cons {state next last : S} {event : Any} {rest : List Any}
      (hevent : Takes rebuilder state event next) (hrest : TakesAll rebuilder next rest last) :
      TakesAll rebuilder state (event :: rest) last

namespace Discipline

/-- A page may stand in a log where its domain event is legal. -/
def allows (self : Discipline S) (state : S) (page : pb.EventPage) : Prop :=
  ∃ event, page_event page = some event ∧ self.legal state event

section

variable [AngzarrProto]

/-- Each event in turn is legal where the events before it take the state. -/
inductive LegalFrom (self : Discipline S) (rebuilder : Rebuilder S) : S → List Any → Prop where
  | nil (state : S) : LegalFrom self rebuilder state []
  | cons {state : S} {event : Any} {rest : List Any} (hevent : self.legal state event)
      (hrest : ∀ next, self.good next → Takes rebuilder state event next →
        LegalFrom self rebuilder next rest) : LegalFrom self rebuilder state (event :: rest)

/-- An emit run on a state records legal events, through every continuation it
can be driven through, and ends in states that `post` holds of. -/
inductive Emits (self : Discipline S) (rebuilder : Rebuilder S) (ctx : CommandContext)
    (post : S → Prop) : S → Emit S → Prop where
  | last {state : S} {events : List Any} (hevents : self.LegalFrom rebuilder state events)
      (hpost : ∀ after, self.good after → TakesAll rebuilder state events after → post after) :
      Emits self rebuilder ctx post state (.mk events none)
  | step {state : S} {events : List Any} {step : StepFn S}
      (hevents : self.LegalFrom rebuilder state events)
      (hstep : ∀ after emit, self.good after → TakesAll rebuilder state events after →
        step after ctx = .ok emit → Emits self rebuilder ctx post after emit) :
      Emits self rebuilder ctx post state (.mk events (some step))

/-- A domain's business code keeps to a discipline: its factory, its appliers,
and its handlers with their steps. -/
structure Kept (rules : Discipline S) (table : DomainDispatch S) : Prop where
  starts : ∃ start, table.rebuilder.factory () = .ok start ∧ rules.good start
  folds : ∀ {state event after}, rules.good state → rules.legal state event →
    Takes table.rebuilder state event after → rules.good after
  commands : ∀ {any thunk state ctx emit},
    table.handlers[type_name_from_url any.type_url]? = some thunk → rules.good state →
    thunk any state ctx = .ok emit → rules.Emits table.rebuilder ctx (fun _ => True) state emit
  facts : ∀ {any thunk state ctx emit},
    table.facts[type_name_from_url any.type_url]? = some thunk → rules.good state →
    thunk any state ctx = .ok emit → rules.Emits table.rebuilder ctx (fun _ => True) state emit

/-- What the factory makes is good. -/
theorem Kept.good_start {rules : Discipline S} {table : DomainDispatch S} (hkept : rules.Kept table)
    {start : S} (hfactory : table.rebuilder.factory () = .ok start) : rules.good start := by
  obtain ⟨made, hmade, hgood⟩ := hkept.starts
  obtain rfl := Outcome.ok.inj (hmade.symm.trans hfactory)
  exact hgood

variable {self : Discipline S} {rebuilder : Rebuilder S} {ctx : CommandContext}
  {mid post : S → Prop} {state after : S} {emit : Emit S} {events : List Any}

/-- Nothing may always be emitted. -/
theorem Emits.none (hpost : self.good state → post state) :
    self.Emits rebuilder ctx post state Emit.none := by
  refine .last (.nil state) fun after hgood htakes => ?_
  cases htakes
  exact hpost hgood

/-- What may be emitted is legal, event by event. -/
theorem Emits.legalFrom (hemits : self.Emits rebuilder ctx post state emit) :
    self.LegalFrom rebuilder state emit.events := by
  cases hemits with
  | last hevents _ => exact hevents
  | step hevents _ => exact hevents

/-- Events that are legal on any state. -/
theorem LegalFrom.of_all (hevents : ∀ event ∈ events, ∀ state, self.legal state event) :
    self.LegalFrom rebuilder state events := by
  induction events generalizing state with
  | nil => exact .nil state
  | cons event rest ih =>
    obtain ⟨hevent, hrest⟩ := List.forall_mem_cons.mp hevents
    exact .cons (hevent state) fun next _ _ => ih hrest

/-- A single event. -/
theorem Emits.of_one {event : Any} (hevent : self.legal state event)
    (hpost : ∀ after, self.good after → Takes rebuilder state event after → post after) :
    self.Emits rebuilder ctx post state (Emit.of [event]) := by
  refine .last (.cons hevent fun _ _ _ => .nil _) fun after hgood htakes => ?_
  cases htakes with
  | cons htakes hrest =>
    cases hrest
    exact hpost _ hgood htakes

theorem Emits.mono (hpost : ∀ state, self.good state → mid state → post state)
    (hemits : self.Emits rebuilder ctx mid state emit) :
    self.Emits rebuilder ctx post state emit := by
  induction hemits with
  | last hevents hmid =>
    exact .last hevents fun after hgood htakes => hpost after hgood (hmid after hgood htakes)
  | step hevents _ ih => exact .step hevents ih

/-- The rule of sequencing: a step added to an emit is run on the states that
emit ends in. -/
theorem Emits.then_step {step : StepFn S} (hemits : self.Emits rebuilder ctx mid state emit)
    (hstep : ∀ after answer, self.good after → mid after → step after ctx = .ok answer →
      self.Emits rebuilder ctx post after answer) :
    self.Emits rebuilder ctx post state (emit.then_step step) := by
  unfold Emit.then_step
  induction hemits with
  | last hevents hmid =>
    rw [Emit.push, Emit.push_next]
    exact .step hevents fun after answer hgood htakes hanswer =>
      hstep after answer hgood (hmid after hgood htakes) hanswer
  | @step state events first hevents _ ih =>
    rw [Emit.push, Emit.push_next]
    refine .step hevents fun after answer hgood htakes hanswer => ?_
    rw [Emit.push_answer_eq_map, Outcome.map_eq_ok_iff] at hanswer
    obtain ⟨inner, hinner, rfl⟩ := hanswer
    exact ih after inner hgood htakes hinner

/-- Legal events that were folded were each allowed on their pages. -/
theorem LegalFrom.trace {table : DomainDispatch S} (hkept : self.Kept table)
    {cover : Option pb.Cover} {event_meta : pb.EventMeta} {sequence : UInt64}
    (hlegal : self.LegalFrom table.rebuilder state events) (hgood : self.good state)
    (hreplay : table.rebuilder.replay cover state (stamped event_meta events sequence) =
      (after, .ok ())) :
    Trace (table.rebuilder.visit cover) self.allows state (stamped event_meta events sequence) after ∧
      TakesAll table.rebuilder state events after ∧ self.good after := by
  induction hlegal generalizing sequence with
  | nil state =>
    obtain ⟨rfl, _⟩ := Prod.mk.inj hreplay
    exact ⟨.nil state, .nil state, hgood⟩
  | @cons state event rest hevent _ ih =>
    obtain ⟨next, _, hvisit, hrest⟩ := andThen_eq_ok_iff.mp hreplay
    have htakes : Takes table.rebuilder state event next := ⟨cover, _, rfl, hvisit⟩
    have hnext := hkept.folds hgood hevent htakes
    obtain ⟨htrace, htakesAll, hlast⟩ := ih next hnext htakes hnext hrest
    exact ⟨.cons ⟨event, rfl, hevent⟩ hvisit htrace, .cons htakes htakesAll, hlast⟩

/-- The rule of invariants: what the factory starts with and every legal fold
keeps holds wherever a trace of the log leads. -/
theorem good_of_trace {table : DomainDispatch S} (hkept : self.Kept table) {cover : Option pb.Cover}
    {pages : List pb.EventPage}
    (htrace : Trace (table.rebuilder.visit cover) self.allows state pages after)
    (hgood : self.good state) : self.good after :=
  htrace.keeps (fun hgood ⟨_, hevent, hlegal⟩ hvisit =>
    hkept.folds hgood hlegal ⟨cover, _, hevent, hvisit⟩) hgood

end

section

variable [AngzarrProto] [BuildProfile] {self : Discipline S} {table : DomainDispatch S}

/-- A turn of a decision that keeps to the discipline. -/
structure Holds (rules : Discipline S) (rebuilder : Rebuilder S) (ctx : CommandContext)
    (turn : Turn S) : Prop where
  good : rules.good turn.state
  emits : rules.Emits rebuilder ctx (fun _ => True) turn.state turn.emit

section

variable (hkept : self.Kept table) (hfold : table.rebuilder.fold = none) {ctx : CommandContext}
  {cover : Option pb.Cover} {event_meta : pb.EventMeta} {first : UInt64}

include hkept hfold

/-- A turn's fold is a trace of what it emits. -/
theorem Holds.trace {turn : Turn S} {after : S} (hholds : self.Holds table.rebuilder ctx turn)
    (hcame : table.fold_turn cover event_meta first turn = (after, .ok ())) :
    Trace (table.rebuilder.visit cover) self.allows turn.state
        (stamped event_meta turn.emit.events (first + UInt64.ofNat turn.answered.length)) after ∧
      TakesAll table.rebuilder turn.state turn.emit.events after ∧ self.good after := by
  have hroom := table.room_of_fold_turn_ne_panic cover event_meta first (by rw [hcame]; simp)
  rw [table.fold_turn_of_room cover event_meta first hroom,
    table.rebuilder.apply_pages_eq_ok_iff_of_appliers hfold] at hcame
  exact hholds.emits.legalFrom.trace hkept hholds.good hcame

/-- The turn after one that keeps to it does too, and what is answered between
them is a trace. -/
theorem Holds.step {turn after : Turn S} (hholds : self.Holds table.rebuilder ctx turn)
    (hstep : table.TurnStep ctx cover event_meta first turn after) :
    self.Holds table.rebuilder ctx after := by
  cases hstep with
  | @continued state step emit hcame hnext hanswer =>
    obtain ⟨_, htakes, hgood⟩ := hholds.trace hkept hfold hcame
    refine ⟨hgood, ?_⟩
    obtain ⟨answered, ⟨events, next⟩, start⟩ := turn
    obtain rfl : next = some step := hnext
    cases hholds.emits with
    | step _ hsteps => exact hsteps state emit hgood htakes hanswer

theorem Holds.reaches {turn last : Turn S} {start : S}
    (hholds : self.Holds table.rebuilder ctx turn)
    (htrace : Trace (table.rebuilder.visit cover) self.allows start
      (stamped event_meta turn.answered first) turn.state)
    (hreach : table.Reaches ctx cover event_meta first turn last) :
    self.Holds table.rebuilder ctx last ∧ Trace (table.rebuilder.visit cover) self.allows start
      (stamped event_meta last.answered first) last.state := by
  induction hreach with
  | refl => exact ⟨hholds, htrace⟩
  | tail _ hstep ih =>
    obtain ⟨hbefore, hsofar⟩ := ih
    refine ⟨hbefore.step hkept hfold hstep, ?_⟩
    cases hstep with
    | continued hcame _ _ =>
      rw [Turn.emitted, stamped_append]
      exact hsofar.append (hbefore.trace hkept hfold hcame).1

/-- Every turn of a request's decision keeps to the discipline, if the state
its history rebuilds to is good. -/
theorem holds_of_passes {req : hpb.HandleRequest} {dispatched : Dispatched S} {turn : Turn S}
    (hgood : ∀ state info, table.rebuilder.rebuild req.history = .ok (state, info) → self.good state)
    (hpasses : table.Passes req dispatched turn) :
    self.Holds table.rebuilder (command_context req) turn ∧
      ∃ start info, table.rebuilder.rebuild req.history = .ok (start, info) ∧
        Trace (table.rebuilder.visit (decision_cover req)) self.allows start
          (stamped ((command_context req).event_meta table.rules_version) turn.answered
            (command_context req).next_sequence) turn.state := by
  obtain ⟨any, state, emit, ⟨hroute, info, hrebuild⟩, hthunk, hreach⟩ := hpasses
  have hstart := hgood state info hrebuild
  have hemits : self.Emits table.rebuilder (command_context req) (fun _ => True) state emit := by
    obtain hcommand | hfact := table.thunk_of_route hroute
    · exact hkept.commands hcommand hstart hthunk
    · exact hkept.facts hfact hstart hthunk
  obtain ⟨hholds, htrace⟩ := Holds.reaches hkept hfold ⟨hstart, hemits⟩ (.nil state) hreach
  exact ⟨hholds, state, info, hrebuild, htrace⟩

end

end

end Discipline

end angzarr_router.domain
