import AngzarrRouter.Domain.Swapped
import AngzarrRouter.Upcaster.Forward

open calls calls.MutCall
open angzarr_router.error angzarr_router.context angzarr_router.rebuild angzarr_router.domain

namespace angzarr_router

variable {S : Type}

namespace upcaster

/-- A page's event replaced, everything else it carries as it was. -/
def with_event (page : pb.EventPage) (event : Any) : pb.EventPage :=
  { page with body := some (.Event event) }

@[simp] theorem page_event_with_event (page : pb.EventPage) (event : Any) :
    page_event (with_event page event) = some event := rfl

/-- A page that is given its own event is itself. -/
theorem with_event_self {page : pb.EventPage} {event : Any} (hevent : page_event page = some event) :
    with_event page event = page := by
  obtain ⟨body, event_meta, sequence⟩ := page
  unfold page_event at hevent
  split at hevent
  · rename_i carried hbody
    obtain rfl := Option.some.inj hevent
    obtain rfl : body = some (.Event carried) := hbody
    rfl
  · cases hevent

/-- A page with the payload of its upcast entry in its event's place. -/
def upcast_page (page : pb.EventPage) (entry : hpb.Upcasted) : pb.EventPage :=
  match entry.payload with
  | some payload => with_event page payload
  | none => page

/-- A book as its coordinator delivers it once the upcaster has answered. -/
def upcast_book (book : pb.EventBook) (resp : hpb.UpcastResponse) : pb.EventBook :=
  { book with pages := List.zipWith upcast_page book.pages resp.pages }

/-- A type no rule brings further. -/
def Current (upcaster : UpcasterDispatch) (event : Any) : Prop :=
  upcaster.rules[type_name_from_url event.type_url]? = none

/-- Where a fold failed, and why: not on an event of what type. -/
def place (failure : pb.EventPage × Option pb.Diagnostic) : UInt64 × Option pb.Diagnostic :=
  (failure.1.sequence, failure.2)

section

variable [AngzarrProto]

/-- What a rule makes of an event folds as the event does, with appliers for
every version there is of it. -/
def Keeps (upcaster : UpcasterDispatch) (every : Rebuilder S) : Prop :=
  ∀ ⦃event name next⦄, upcaster.Applies event name next → ∀ cover state page,
    page_event page = some event →
    (every.visit cover state (with_event page next)).map_err place =
      (every.visit cover state page).map_err place

/-- A rebuilder that has appliers for the types no rule brings further, and need
have none for the others. -/
structure Drops (upcaster : UpcasterDispatch) (every current : Rebuilder S) : Prop where
  factory : current.factory = every.factory
  codec : current.codec = every.codec
  state_type_url : current.state_type_url = every.state_type_url
  by_applier : every.fold = none ∧ current.fold = none
  appliers : ∀ name : String, upcaster.rules[name]? = none →
    current.appliers[name]? = every.appliers[name]?

/-- Errors that are one, or that name a failed fold of one page, each under the
type it found there. -/
def SameFold (state_type_url : String) (error error' : CodedError) : Prop :=
  error = error' ∨ ∃ sequence type_url type_url' cause,
    error = .fold_failed .FoldFailed (.Page sequence type_url) state_type_url cause ∧
      error' = .fold_failed .FoldFailed (.Page sequence type_url') state_type_url cause

variable {upcaster : UpcasterDispatch} {every current : Rebuilder S} {cover : Option pb.Cover}

/-- However many rules an event goes through, what it is brought to folds as it
does. -/
theorem Keeps.upcast_loop (hkeeps : Keeps upcaster every) {applied : List String}
    {event brought : Any} (hloop : (upcaster.upcast_loop applied event).2 = .ok brought) (state : S)
    {page : pb.EventPage} (hevent : page_event page = some event) :
    (every.visit cover state (with_event page brought)).map_err place =
      (every.visit cover state page).map_err place := by
  fun_induction UpcasterDispatch.upcast_loop upcaster applied event generalizing page with
  | case1 applied event name hrule =>
    obtain rfl := Outcome.ok.inj hloop
    rw [with_event_self hevent]
  | case2 applied event name thunk hrule hused =>
    obtain rfl := Outcome.ok.inj hloop
    rw [with_event_self hevent]
  | case3 applied event name thunk hrule hfresh next hnext ih =>
    have happlies : upcaster.Applies event name next := ⟨rfl, thunk, hrule, hnext⟩
    rw [← hkeeps happlies cover state page hevent]
    exact ih hloop (page_event_with_event page next)
  | case4 => cases hloop
  | case5 => cases hloop

/-- What no rule brings further folds the same without the appliers for what one
does. -/
theorem Drops.visit_eq (hdrops : Drops upcaster every current) (state : S) {page : pb.EventPage}
    (hcurrent : ∀ event, page_event page = some event → Current upcaster event) :
    current.visit cover state page = every.visit cover state page := by
  unfold Rebuilder.visit Rebuilder.applier_of
  cases hevent : page_event page with
  | none => rfl
  | some event =>
    simp only [Option.bind_some]
    rw [hdrops.appliers _ (hcurrent event hevent)]

theorem Drops.name_failure_eq (hdrops : Drops upcaster every current) (origin : PageOrigin) :
    current.name_failure origin = every.name_failure origin := by
  funext failure
  rw [Rebuilder.name_failure, Rebuilder.name_failure, hdrops.state_type_url]

/-- Failures at one place are named as folds of one page. -/
theorem sameFold_of_place (self : Rebuilder S) {failure failure' : pb.EventPage × Option pb.Diagnostic}
    (hplace : place failure = place failure') :
    SameFold self.state_type_url (self.name_failure .Persisted failure)
      (self.name_failure .Persisted failure') := by
  obtain ⟨hsequence, hcause⟩ := Prod.mk.inj hplace
  refine .inr ⟨failure.1.sequence, _, (page_event failure'.1).elim "" (·.type_url), failure.2, rfl, ?_⟩
  rw [hsequence, hcause, Rebuilder.name_failure, page_fold_error]
  cases page_event failure'.1 <;> rfl

/-- An answered dispatch answers every page. -/
theorem answers_of_dispatch {events : List pb.EventPage} {resp : hpb.UpcastResponse}
    (hupcast : upcaster.dispatch { input := some (.Pages { events }) } = .ok resp) :
    List.Forall₂ upcaster.Answers events resp.pages := by
  simp only [UpcasterDispatch.dispatch, Outcome.bind_eq_ok_iff] at hupcast
  obtain ⟨entries, hentries, hresp⟩ := hupcast
  obtain rfl := Outcome.ok.inj hresp
  exact (collect_eq_ok_iff.mp hentries).imp fun page entry => upcaster.upcast_page_eq_ok_iff.mp

theorem isEmpty_zipWith_upcast_page {pages : List pb.EventPage} {entries : List hpb.Upcasted}
    (hanswers : List.Forall₂ upcaster.Answers pages entries) :
    (List.zipWith upcast_page pages entries).isEmpty = pages.isEmpty := by
  cases hanswers <;> rfl

section

variable {R : Type} [Preorder R] {rank : String → R} (hforward : upcaster.GoesForward rank)
  (hkeeps : Keeps upcaster every) (hdrops : Drops upcaster every current)

include hforward hkeeps hdrops

/-- A page upcast folds, without them, as the page did with them. -/
theorem visit_upcast_page {page : pb.EventPage} {entry : hpb.Upcasted}
    (hanswers : upcaster.Answers page entry) (state : S) :
    (current.visit cover state (upcast_page page entry)).map_err place =
      (every.visit cover state page).map_err place := by
  obtain ⟨_, ⟨hevent, hpayload⟩ | ⟨event, payload, hevent, hupcast, hpayload⟩⟩ := hanswers
  · rw [upcast_page, hpayload]
    rw [hdrops.visit_eq state fun event hsome => by rw [hevent] at hsome; cases hsome]
  · have hbehind : UpcasterDispatch.Behind rank [] event := fun name hname => by cases hname
    have hcurrent : Current upcaster payload :=
      UpcasterDispatch.no_rule_of_upcast_loop_ok hforward hbehind hupcast
    rw [upcast_page, hpayload]
    simp only
    rw [hdrops.visit_eq state fun found hsome => ?_, hkeeps.upcast_loop hupcast state hevent]
    obtain rfl := Option.some.inj hsome
    exact hcurrent

/-- And so do a book's pages, in order. -/
theorem replay_upcast_pages {pages : List pb.EventPage} {entries : List hpb.Upcasted}
    (hanswers : List.Forall₂ upcaster.Answers pages entries) (state : S) :
    (current.replay cover state (List.zipWith upcast_page pages entries)).map_err place =
      (every.replay cover state pages).map_err place := by
  unfold Rebuilder.replay
  rw [← for_each_map_err, ← for_each_map_err]
  induction hanswers generalizing state with
  | nil => rfl
  | cons hanswers _ ih =>
    rw [List.zipWith_cons_cons, for_each_cons, for_each_cons,
      visit_upcast_page hforward hkeeps hdrops hanswers state]
    congr 1
    funext next _
    exact ih next

omit hforward hkeeps in
/-- Nor do emitted events that no rule brings further fold otherwise. -/
theorem Drops.apply_emitted_eq [BuildProfile] (state : S) {events : List Any}
    (hevents : ∀ event ∈ events, Current upcaster event) (start : UInt64)
    (event_meta : pb.EventMeta) :
    current.apply_emitted state events cover start event_meta =
      every.apply_emitted state events cover start event_meta := by
  by_cases hroom : U64Room start events.length
  · unfold Rebuilder.apply_emitted
    simp only [numbered_of_room event_meta events hroom]
    rw [current.apply_pages_eq_replay hdrops.by_applier.2, every.apply_pages_eq_replay hdrops.by_applier.1]
    have hreplay : current.replay cover state (stamped event_meta events start) =
        every.replay cover state (stamped event_meta events start) := by
      clear hroom
      unfold Rebuilder.replay
      induction events generalizing state start with
      | nil => rfl
      | cons event rest ih =>
        obtain ⟨hfirst, hrest⟩ := List.forall_mem_cons.mp hevents
        rw [stamped, for_each_cons, for_each_cons]
        rw [hdrops.visit_eq state fun found hsome => ?_]
        · congr 1
          funext next _
          exact ih next hrest (start + 1)
        · obtain rfl := Option.some.inj hsome
          exact hfirst
    rw [hreplay, hdrops.name_failure_eq]
  · rw [current.apply_emitted_of_not_room _ _ _ _ hroom, every.apply_emitted_of_not_room _ _ _ _ hroom]

/-- What an upcast book rebuilds to is what the book does, or fails to fold at
the page the book does. -/
theorem rebuild_upcast_book {book : pb.EventBook} {resp : hpb.UpcastResponse}
    (hanswers : List.Forall₂ upcaster.Answers book.pages resp.pages) :
    Alike (SameFold every.state_type_url)
      ((current.rebuild (some (upcast_book book resp))).map (·.1))
      ((every.rebuild (some book)).map (·.1)) := by
  have hsame : current.starting_state (upcast_book book resp) = every.starting_state book := by
    unfold Rebuilder.starting_state Rebuilder.fresh
    rw [hdrops.factory, hdrops.codec, hdrops.state_type_url]
    rfl
  cases hstart : every.starting_state book with
  | ok start =>
    rw [current.rebuild_state_eq_apply_pages _
        ((current.starting_state_eq_ok_iff _ start).mp (hsame.trans hstart)),
      every.rebuild_state_eq_apply_pages _ ((every.starting_state_eq_ok_iff book start).mp hstart),
      current.apply_pages_eq_replay hdrops.by_applier.2, every.apply_pages_eq_replay hdrops.by_applier.1]
    have hreplay : (current.replay book.cover start (upcast_book book resp).pages).map_err place =
        (every.replay book.cover start book.pages).map_err place :=
      replay_upcast_pages hforward hkeeps hdrops hanswers start
    rw [hdrops.name_failure_eq]
    exact ((AlikeCalls.of_map_err hreplay).map_err fun _ _ => sameFold_of_place every).owned.map _
  | err error =>
    rw [every.rebuild_of_starting_state_err hstart,
      current.rebuild_of_starting_state_err (hsame.trans hstart)]
    exact .err (.inl rfl)
  | panic =>
    rw [every.rebuild_of_starting_state_panic hstart,
      current.rebuild_of_starting_state_panic (hsame.trans hstart)]
    exact .panic

/-- Upcasting replaces old appliers. Where rules only go forward, and what each
makes of an event folds as the event does, a component that has appliers only
for the types no rule brings further, and emits only those, answers a request
delivered with its history upcast as one with appliers for every version answers
it as stored; but for the type a failing fold is named under, at the page it
fails. -/
theorem upcasting_replaces_old_appliers [BuildProfile] {self : DomainDispatch S}
    (hself : self.rebuilder = every) (hemits : self.EmitsOnly (Current upcaster))
    {req : hpb.HandleRequest} {book : pb.EventBook} (hhistory : req.history = some book)
    {resp : hpb.UpcastResponse}
    (hupcast : upcaster.dispatch { input := some (.Pages { events := book.pages }) } = .ok resp) :
    Alike (SameFold every.state_type_url)
      (({ self with rebuilder := current } : DomainDispatch S).dispatch
        { req with history := some (upcast_book book resp) })
      (self.dispatch req) := by
  subst hself
  have hanswers := answers_of_dispatch hupcast
  have hempty := isEmpty_zipWith_upcast_page hanswers
  refine DomainDispatch.dispatch_swapped ?_ hemits ?_ ?_ ?_ ?_ ?_ ?_
  · intro state events cover start event_meta hevents
    exact hdrops.apply_emitted_eq state hevents start event_meta
  · intro state
    rw [Rebuilder.encode_state, Rebuilder.encode_state, hdrops.codec]
  · rfl
  · simp only [command_context, hhistory, Option.any_some, upcast_book, hempty]
    rfl
  · simp only [DomainDispatch.decision_cover, command_context, hhistory]
    rfl
  · exact fun error => .inl rfl
  · rw [hhistory]
    exact rebuild_upcast_book hforward hkeeps hdrops hanswers

end

end

open declared

namespace shelf

/-- Counts one more, of whatever version. -/
def counts (count : Nat) (_ : Any) : MutCall Nat BoxError Unit :=
  if count < 3 then (count + 1, .ok ()) else (count, .err (.Other "full"))

/-- A shelf that reads every version. -/
def reads_every : Rebuilder Nat :=
  (((Rebuilder.new fun _ => .ok 0).apply "shop.Added.v1" counts).apply "shop.Added.v2" counts).apply
    "shop.Added.v3" counts

/-- And one that reads the last. -/
def reads_last : Rebuilder Nat := (Rebuilder.new fun _ => .ok 0).apply "shop.Added.v3" counts

def adds_last : HandlerFn Nat := fun _ _ _ => .ok (Emit.of [added "v3"])

def dispatch : DomainDispatch Nat := (DomainDispatch.new reads_every).on_command "shop.Add" adds_last

/-- A page an older shelf recorded. -/
def recorded (name : String) (sequence : UInt64) : pb.EventPage :=
  { body := some (.Event (added name)), event_meta := none, sequence }

def book : pb.EventBook :=
  { cover := some domain.shelf.cover, snapshot := none, pages := [recorded "v1" 0, recorded "v2" 1]
    next_sequence := 2 }

/-- It reads them alike. -/
theorem visit_reads_every {page : pb.EventPage} {event : Any}
    (hevent : page_event page = some event)
    (happlier : reads_every.appliers[type_name_from_url event.type_url]? =
      some fun state any _ => counts state any) (cover : Option pb.Cover) (state : Nat) :
    (reads_every.visit cover state page).map_err place =
      if state < 3 then (state + 1, .ok ()) else (state, .err (page.sequence, none)) := by
  unfold Rebuilder.visit Rebuilder.applier_of
  simp only [hevent, Option.bind_some, happlier, Option.map_some]
  by_cases hroom : state < 3
  · simp only [run_applier, counts, hroom, if_true]
    rfl
  · simp only [run_applier, counts, hroom, if_false]
    rfl

theorem applied {event next : Any} {name : String} (happlies : versions.Applies event name next) :
    name = type_name_from_url event.type_url ∧ (name = "shop.Added.v1" ∧ next = added "v2" ∨
      name = "shop.Added.v2" ∧ next = added "v3") := by
  obtain ⟨hname, thunk, hrule, hnext⟩ := happlies
  refine ⟨hname, ?_⟩
  simp only [versions, UpcasterDispatch.rule, UpcasterDispatch.new, Std.ExtTreeMap.getElem?_insert,
    Std.LawfulEqOrd.compare_eq_iff_eq] at hrule
  split at hrule
  · rename_i hsecond
    obtain rfl := Option.some.inj hrule
    exact .inr ⟨hsecond.symm, (Outcome.ok.inj hnext).symm⟩
  · split at hrule
    · rename_i hfirst
      obtain rfl := Option.some.inj hrule
      exact .inl ⟨hfirst.symm, (Outcome.ok.inj hnext).symm⟩
    · simp at hrule

theorem keeps : Keeps versions reads_every := by
  intro event name next happlies cover state page hevent
  obtain ⟨hname, hversion⟩ := applied happlies
  have hold : reads_every.appliers[type_name_from_url event.type_url]? =
      some fun state any _ => counts state any := by
    rw [← hname]
    obtain ⟨rfl, _⟩ | ⟨rfl, _⟩ := hversion <;> rfl
  have hnew : reads_every.appliers[type_name_from_url next.type_url]? =
      some fun state any _ => counts state any := by
    obtain ⟨_, rfl⟩ | ⟨_, rfl⟩ := hversion <;> rfl
  exact (visit_reads_every (page_event_with_event page next) hnew cover state).trans
    (visit_reads_every hevent hold cover state).symm

theorem drops : Drops versions reads_every reads_last where
  factory := rfl
  codec := rfl
  state_type_url := rfl
  by_applier := ⟨rfl, rfl⟩
  appliers name hrule := by
    have hfirst : "shop.Added.v1" ≠ name := by
      rintro rfl
      cases hrule
    have hsecond : "shop.Added.v2" ≠ name := by
      rintro rfl
      cases hrule
    simp only [reads_every, reads_last, Rebuilder.apply, Rebuilder.apply_with_context, Rebuilder.new,
      Std.ExtTreeMap.getElem?_insert, Std.LawfulEqOrd.compare_eq_iff_eq, hfirst, hsecond, if_false]

theorem emits_last : dispatch.EmitsOnly (Current versions) := by
  intro name thunk hthunk any state ctx emit hemit
  simp only [dispatch, DomainDispatch.on_command, DomainDispatch.new, Std.ExtTreeMap.getElem?_insert,
    Std.LawfulEqOrd.compare_eq_iff_eq, Std.ExtTreeMap.getElem?_empty, reduceCtorEq, or_false] at hthunk
  split at hthunk
  · obtain rfl := Option.some.inj hthunk
    obtain rfl := Outcome.ok.inj hemit
    refine .last fun event hevent => ?_
    obtain rfl := List.mem_singleton.mp hevent
    rfl
  · cases hthunk

end shelf

/-- One that reads the last version alone adds a third to two of older versions,
delivered as what they are brought to. -/
theorem upcasting_replaces_old_appliers_shelf : ∃ resp,
    shelf.versions.dispatch { input := some (.Pages { events := shelf.book.pages }) } = .ok resp ∧
      ({ shelf.dispatch with rebuilder := shelf.reads_last } : DomainDispatch Nat).dispatch
        { domain.shelf.add 2 with history := some (upcast_book shelf.book resp) } =
          .ok { events := [shelf.added "v3"], state := none, rules_version := "" } := by
  have hupcast : shelf.versions.dispatch { input := some (.Pages { events := shelf.book.pages }) } =
      .ok { pages := [⟨some (.Sequence 0), some (shelf.added "v3")⟩,
        ⟨some (.Sequence 1), some (shelf.added "v3")⟩] } := by
    decide +kernel
  have hstored : shelf.dispatch.dispatch { domain.shelf.add 2 with history := some shelf.book } =
      .ok { events := [shelf.added "v3"], state := none, rules_version := "" } := by
    rfl
  let req : hpb.HandleRequest := { domain.shelf.add 2 with history := some shelf.book }
  have hhistory : req.history = some shelf.book := rfl
  have halike := upcasting_replaces_old_appliers shelf.goes_forward shelf.keeps shelf.drops rfl
    shelf.emits_last hhistory hupcast
  exact ⟨_, hupcast, halike.eq_ok.mpr hstored⟩

end upcaster

end angzarr_router
