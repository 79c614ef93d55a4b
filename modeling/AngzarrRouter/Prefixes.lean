import AngzarrRouter.Calls.Alike
import AngzarrRouter.Domain.Replayed
import AngzarrRouter.Policy
import AngzarrRouter.Projector
import AngzarrRouter.Rebuild.Causes
import AngzarrRouter.Text.Split

open calls calls.MutCall text
open angzarr_router.error angzarr_router.context angzarr_router.rebuild
open angzarr_router.domain angzarr_router.policy angzarr_router.projector

namespace angzarr_router

/-- The type URLs of a name: the name alone, or after a `/` with anything, or
nothing, before that. -/
inductive UrlOf (name : String) : String → Prop where
  | bare : UrlOf name name
  | under (front : String) : UrlOf name (front ++ "/" ++ name)

/-- URLs of one name. -/
def AlikeUrl (url url' : String) : Prop := ∃ name, '/' ∉ name.toList ∧ UrlOf name url ∧ UrlOf name url'

/-- Messages that differ, at most, before the last `/` of their type URLs. -/
structure AlikeAny (any any' : Any) : Prop where
  type_url : AlikeUrl any.type_url any'.type_url
  value : any.value = any'.value

inductive AlikeBody : pb.event_page.Body → pb.event_page.Body → Prop where
  | Event {event event' : Any} (h : AlikeAny event event') : AlikeBody (.Event event) (.Event event')
  | MetaEvent (meta_event : pb.MetaEvent) : AlikeBody (.MetaEvent meta_event) (.MetaEvent meta_event)

structure AlikePage (page page' : pb.EventPage) : Prop where
  body : Option.Rel AlikeBody page.body page'.body
  event_meta : page.event_meta = page'.event_meta
  sequence : page.sequence = page'.sequence

abbrev AlikePages : List pb.EventPage → List pb.EventPage → Prop := List.Forall₂ AlikePage

structure AlikeBook (book book' : pb.EventBook) : Prop where
  cover : book.cover = book'.cover
  snapshot : book.snapshot = book'.snapshot
  pages : AlikePages book.pages book'.pages
  next_sequence : book.next_sequence = book'.next_sequence

inductive AlikeInput : pb.command_page.Body → pb.command_page.Body → Prop where
  | Command {payload payload' : Option Any} (handling : Option pb.Handling)
      (h : Option.Rel AlikeAny payload payload') :
      AlikeInput (.Command { payload, handling }) (.Command { payload := payload', handling })
  | Fact {payload payload' : Option Any} (origin : Option pb.FactOrigin)
      (h : Option.Rel AlikeAny payload payload') :
      AlikeInput (.Fact { payload, origin }) (.Fact { payload := payload', origin })

structure AlikeCommandPage (page page' : pb.CommandPage) : Prop where
  body : Option.Rel AlikeInput page.body page'.body
  command_id : page.command_id = page'.command_id
  correlation_id : page.correlation_id = page'.correlation_id

structure AlikeCommandBook (book book' : pb.CommandBook) : Prop where
  cover : book.cover = book'.cover
  page : Option.Rel AlikeCommandPage book.page book'.page

/-- Requests that differ, at most, before the last `/` of the type URLs of their
payload and of their history's events. -/
structure AlikeRequest (req req' : hpb.HandleRequest) : Prop where
  input : Option.Rel AlikeCommandBook req.input req'.input
  history : Option.Rel AlikeBook req.history req'.history
  recorded_at : req.recorded_at = req'.recorded_at
  causation : req.causation = req'.causation

/-- Callbacks that neither read nor copy out what precedes a type's name: they
do one thing with messages, and with pages, that are alike. -/
structure rebuild.Rebuilder.Blind {S : Type} (r : Rebuilder S) : Prop where
  appliers : ∀ (name : String) (thunk : ApplierFn S), r.appliers[name]? = some thunk → ∀ state ctx any any',
    AlikeAny any any' → thunk state any ctx = thunk state any' ctx
  fold : ∀ fold : FoldFn S, r.fold = some fold → ∀ state cover pages pages',
    AlikePages pages pages' → fold state pages cover = fold state pages' cover

structure domain.DomainDispatch.Blind {S : Type} (d : DomainDispatch S) : Prop where
  rebuilder : d.rebuilder.Blind
  handlers : ∀ (name : String) (thunk : HandlerFn S), d.handlers[name]? = some thunk → ∀ state ctx any any',
    AlikeAny any any' → thunk any state ctx = thunk any' state ctx
  facts : ∀ (name : String) (thunk : HandlerFn S), d.facts[name]? = some thunk → ∀ state ctx any any',
    AlikeAny any any' → thunk any state ctx = thunk any' state ctx

def policy.PolicyDispatch.Blind (d : PolicyDispatch) : Prop :=
  ∀ (name : String) (thunk : policy.EventFn), d.handlers[name]? = some thunk → ∀ ctx any any',
    AlikeAny any any' → thunk any ctx = thunk any' ctx

structure projector.ProjectorDispatch.Blind {P : Type} (d : ProjectorDispatch P) : Prop where
  handlers : ∀ (name : String) (thunk : projector.EventFn P), d.handlers[name]? = some thunk → ∀ projection ctx any any',
    AlikeAny any any' → thunk projection any ctx = thunk projection any' ctx
  finish : ∀ finish : FinishFn P, d.finish = some finish → ∀ projection book book',
    AlikeBook book book' → finish projection book = finish projection book'

/-- Errors of one key and status, their args the same but where they quote a
type URL: there they quote URLs of one name. -/
structure AlikeError [AngzarrProto] (error error' : CodedError) : Prop where
  code : error.code = error'.code
  grpc : error.grpc = error'.grpc
  refusal : error.refusal = error'.refusal
  args : ∀ arg, error.extras[arg]? = error'.extras[arg]? ∨
    arg = AngzarrProto.reason_args.TYPE_URL ∧ ∃ url url', AlikeUrl url url' ∧
      error.extras[arg]? = some url ∧ error'.extras[arg]? = some url'

/-- URLs that are alike are so the other way round, and so is what they stand
in. -/
theorem AlikeUrl.symm {url url' : String} : AlikeUrl url url' → AlikeUrl url' url
  | ⟨name, hname, hurl, hurl'⟩ => ⟨name, hname, hurl', hurl⟩

theorem AlikeAny.symm {any any' : Any} (h : AlikeAny any any') : AlikeAny any' any :=
  ⟨h.type_url.symm, h.value.symm⟩

theorem AlikeBody.symm {body body' : pb.event_page.Body} : AlikeBody body body' → AlikeBody body' body
  | .Event h => .Event h.symm
  | .MetaEvent meta_event => .MetaEvent meta_event

/-- Options of things alike are alike the other way round too. -/
theorem rel_symm {α : Type} {alike : α → α → Prop} (hsymm : ∀ {a a'}, alike a a' → alike a' a)
    {a a' : Option α} : Option.Rel alike a a' → Option.Rel alike a' a
  | .none => .none
  | .some h => .some (hsymm h)

theorem AlikePage.symm {page page' : pb.EventPage} (h : AlikePage page page') : AlikePage page' page :=
  ⟨rel_symm AlikeBody.symm h.body, h.event_meta.symm, h.sequence.symm⟩

theorem AlikeBook.symm {book book' : pb.EventBook} (h : AlikeBook book book') : AlikeBook book' book :=
  ⟨h.cover.symm, h.snapshot.symm, h.pages.flip.imp fun _ _ => AlikePage.symm, h.next_sequence.symm⟩

theorem AlikeInput.symm {body body' : pb.command_page.Body} :
    AlikeInput body body' → AlikeInput body' body
  | .Command handling h => .Command handling (rel_symm AlikeAny.symm h)
  | .Fact origin h => .Fact origin (rel_symm AlikeAny.symm h)

theorem AlikeCommandPage.symm {page page' : pb.CommandPage} (h : AlikeCommandPage page page') :
    AlikeCommandPage page' page :=
  ⟨rel_symm AlikeInput.symm h.body, h.command_id.symm, h.correlation_id.symm⟩

theorem AlikeRequest.symm {req req' : hpb.HandleRequest} (h : AlikeRequest req req') :
    AlikeRequest req' req :=
  ⟨rel_symm (fun h => ⟨h.cover.symm, rel_symm AlikeCommandPage.symm h.page⟩) h.input,
    rel_symm AlikeBook.symm h.history, h.recorded_at.symm, h.causation.symm⟩

/-- A URL of a name names it, whatever stands before it. -/
theorem UrlOf.type_name {name url : String} (hname : '/' ∉ name.toList) (h : UrlOf name url) :
    type_name_from_url url = name := by
  have hkept : ∀ c ∈ name.toList, decide (c ≠ '/') = true :=
    fun c hc => decide_eq_true fun heq => hname (heq ▸ hc)
  rw [type_name_from_url, ← String.toList_inj, String.toList_ofList]
  cases h with
  | bare => exact List.rtakeWhile_eq_self_iff.mpr hkept
  | under front =>
    have htext : (front ++ "/" ++ name).toList = front.toList ++ '/' :: name.toList := by simp
    rw [htext]
    exact rtakeWhile_append _ rfl hkept

/-- Payloads that are alike have one type. -/
theorem AlikeAny.type_name {any any' : Any} (h : AlikeAny any any') :
    type_name_from_url any.type_url = type_name_from_url any'.type_url := by
  obtain ⟨name, hname, hurl, hurl'⟩ := h.type_url
  rw [hurl.type_name hname, hurl'.type_name hname]

/-- Pages that are alike carry events that are, or none. -/
theorem AlikePage.event {page page' : pb.EventPage} (h : AlikePage page page') :
    Option.Rel AlikeAny (page_event page) (page_event page') := by
  rw [page_event, page_event]
  cases hbody : page.body <;> cases hbody' : page'.body <;> have hrel := h.body <;>
    rw [hbody, hbody'] at hrel <;> cases hrel
  · exact .none
  · rename_i hbodies
    cases hbodies with
    | Event h => exact .some h
    | MetaEvent => exact .none

/-- Pages that are alike are so one by one. -/
theorem AlikePages.getElem? {pages pages' : List pb.EventPage} (h : AlikePages pages pages')
    (i : Nat) : Option.Rel AlikePage pages[i]? pages'[i]? := by
  induction h generalizing i with
  | nil => exact .none
  | cons hpage _ ih =>
    cases i with
    | zero => exact .some hpage
    | succ i => exact ih i

theorem AlikePages.isEmpty {pages pages' : List pb.EventPage} (h : AlikePages pages pages') :
    pages.isEmpty = pages'.isEmpty := by
  cases h <;> rfl

/-- Pages that are alike have the same sequences. -/
theorem AlikePages.sequences {pages pages' : List pb.EventPage} (h : AlikePages pages pages') :
    pages.map (·.sequence) = pages'.map (·.sequence) := by
  induction h with
  | nil => rfl
  | cons hpage _ ih => rw [List.map_cons, List.map_cons, hpage.sequence, ih]

section

variable [AngzarrProto]

theorem AlikeError.refl (error : CodedError) : AlikeError error error :=
  ⟨rfl, rfl, rfl, fun _ => .inl rfl⟩

/-- Errors whose args differ in the URL quoted under `type_url`. -/
theorem alikeError_of_extras {error error' : CodedError} (hcode : error.code = error'.code)
    (hgrpc : error.grpc = error'.grpc) (hrefusal : error.refusal = error'.refusal)
    (left right : List (String × String)) {url url' : String} (hurl : AlikeUrl url url')
    (hextras : error.extras = .ofList (left ++ (AngzarrProto.reason_args.TYPE_URL, url) :: right))
    (hextras' : error'.extras =
      .ofList (left ++ (AngzarrProto.reason_args.TYPE_URL, url') :: right)) :
    AlikeError error error' := by
  refine ⟨hcode, hgrpc, hrefusal, fun arg => ?_⟩
  rw [hextras, hextras']
  obtain hsame | ⟨harg, hvalue, hvalue'⟩ := getElem?_ofList_entry left right
    AngzarrProto.reason_args.TYPE_URL url url' arg
  · exact .inl hsame
  · exact .inr ⟨harg, url, url', hurl, hvalue, hvalue'⟩

/-- Types that nothing handles are refused alike. -/
theorem unknown_type_alike (reason : AngzarrReason) {url url' : String} (hurl : AlikeUrl url url') :
    AlikeError (.unknown_type reason url) (.unknown_type reason url') :=
  alikeError_of_extras rfl rfl rfl [] [] hurl rfl rfl

/-- A page that fails is named alike. -/
theorem fold_failed_alike (reason : AngzarrReason) (sequence : UInt64) {url url' : String}
    (hurl : AlikeUrl url url') (state_type_url : String) (cause : Option pb.Diagnostic) :
    AlikeError (.fold_failed reason (.Page sequence url) state_type_url cause)
      (.fold_failed reason (.Page sequence url') state_type_url cause) := by
  have hextras (url : String) := fold_failed_extras reason (.Page sequence url) state_type_url cause
  refine alikeError_of_extras ?_ ?_ ?_ [(AngzarrProto.reason_args.SEQUENCE, toString sequence)]
    ((AngzarrProto.reason_args.STATE_TYPE_URL, state_type_url) :: cause.elim [] fun cause =>
      flatten AngzarrProto.reason_args.CAUSE cause.code cause.args.toList)
    hurl (hextras url) (hextras url') <;> cases cause <;> rfl

/-- Folds that fail on pages alike fail alike. -/
theorem page_fold_error_alike (origin : PageOrigin) {page page' : pb.EventPage}
    (hpage : AlikePage page page') (state_type_url : String) (cause : Option pb.Diagnostic) :
    AlikeError (page_fold_error origin page state_type_url cause)
      (page_fold_error origin page' state_type_url cause) := by
  have hevent := hpage.event
  unfold page_fold_error
  rw [hpage.sequence]
  cases hl : page_event page <;> cases hr : page_event page' <;> rw [hl, hr] at hevent <;>
    cases hevent
  · exact .refl _
  · rename_i hany
    exact fold_failed_alike origin.reason page'.sequence hany.type_url state_type_url cause

/-- So do batched folds, whichever page they name. -/
theorem fold_error_alike (origin : PageOrigin) {pages pages' : List pb.EventPage}
    (hpages : AlikePages pages pages') (failure : FoldFailure) (state_type_url : String) :
    AlikeError (fold_error origin pages failure state_type_url)
      (fold_error origin pages' failure state_type_url) := by
  have hplace : (FoldAt.Range (pages.head?.elim 0 (·.sequence)) (pages.getLast?.elim 0 (·.sequence))) =
      .Range (pages'.head?.elim 0 (·.sequence)) (pages'.getLast?.elim 0 (·.sequence)) := by
    have helim (page : Option pb.EventPage) :
        page.elim 0 (·.sequence) = (page.map (·.sequence)).getD 0 := by cases page <;> rfl
    rw [helim, helim, helim, helim, ← List.head?_map, ← List.head?_map, ← List.getLast?_map,
      ← List.getLast?_map, hpages.sequences]
  have hfound : Option.Rel AlikePage (failure.page_index.bind (pages[·]?))
      (failure.page_index.bind (pages'[·]?)) := by
    cases failure.page_index with
    | none => exact .none
    | some i => exact hpages.getElem? i
  unfold fold_error
  generalize failure.page_index.bind (pages[·]?) = found at hfound ⊢
  generalize failure.page_index.bind (pages'[·]?) = found' at hfound ⊢
  cases hfound with
  | none =>
    rw [hplace]
    exact .refl _
  | some hpage => exact page_fold_error_alike origin hpage state_type_url failure.cause

namespace rebuild.Rebuilder

variable {S : Type} {r : Rebuilder S}

omit [AngzarrProto] in
/-- Pages alike pick one applier, by their events' name. -/
theorem applier_of_alike {page page' : pb.EventPage} (hpage : AlikePage page page') :
    (r.applier_of page).map (·.2) = (r.applier_of page').map (·.2) := by
  have hevent := hpage.event
  unfold applier_of
  generalize page_event page = event at hevent ⊢
  generalize page_event page' = event' at hevent ⊢
  cases hevent with
  | none => rfl
  | some hany =>
    simp only [Option.bind_some, Option.map_map, hany.type_name]
    rfl

/-- Pages that are alike fold alike. -/
theorem rebuild_page_alike (hblind : r.Blind) (cover : Option pb.Cover) (folded : S × RebuildInfo)
    {page page' : pb.EventPage} (hpage : AlikePage page page') :
    AlikeCalls AlikeError (r.rebuild_page cover folded page) (r.rebuild_page cover folded page') := by
  have hevent := hpage.event
  have herror := page_fold_error_alike .Persisted hpage r.state_type_url
  obtain ⟨state, info⟩ := folded
  unfold rebuild_page
  generalize page_event page = event at hevent ⊢
  generalize page_event page' = event' at hevent ⊢
  cases hevent with
  | none => exact ⟨rfl, .ok ()⟩
  | @some event event' hany =>
    simp only [hany.type_name, hpage.sequence, hpage.event_meta]
    cases happlier : r.appliers[type_name_from_url event'.type_url]? with
    | none => exact ⟨rfl, .ok ()⟩
    | some thunk =>
      simp only [run_applier, hblind.appliers _ thunk happlier _ _ event event' hany]
      generalize thunk state event' _ = ran
      obtain ⟨next, ⟨⟩ | err | _⟩ := ran
      · exact ⟨rfl, .ok ()⟩
      · exact ⟨rfl, .err (herror _)⟩
      · exact ⟨rfl, .err (herror _)⟩

/-- Books alike rebuild alike. -/
theorem rebuild_alike (hblind : r.Blind) {book book' : Option pb.EventBook}
    (hbook : Option.Rel AlikeBook book book') :
    Alike AlikeError (r.rebuild book) (r.rebuild book') := by
  cases hbook with
  | none => exact .refl AlikeError.refl _
  | @some book book' hbook =>
    have hstart : r.starting_state book = r.starting_state book' := by
      simp only [starting_state, hbook.snapshot]
    unfold rebuild
    simp only [hstart, hbook.pages.isEmpty, hbook.snapshot, hbook.cover]
    refine (Alike.refl AlikeError.refl _).bind fun state _ => ?_
    cases hfold : r.fold with
    | none =>
      exact ((for_each_alike hbook.pages
        (fun folded _ _ => r.rebuild_page_alike hblind book'.cover folded) _).owned).map _
    | some fold =>
      simp only
      split
      · exact .ok _
      · simp only [run_fold, hblind.fold fold hfold state book'.cover _ _ hbook.pages,
          hbook.pages.length_eq]
        generalize fold state book'.pages book'.cover = ran
        obtain ⟨next, ⟨⟩ | failure | _⟩ := ran
        · exact .ok _
        · exact .err (fold_error_alike .Persisted hbook.pages _ _)
        · exact .err (fold_error_alike .Persisted hbook.pages _ _)

end rebuild.Rebuilder

namespace domain.DomainDispatch

variable {S : Type} {d : DomainDispatch S}

/-- How requests alike are routed: to one handler, with payloads alike, or to
none. -/
inductive RoutedAlike : Outcome CodedError (Dispatched S × Any) →
    Outcome CodedError (Dispatched S × Any) → Prop where
  | ok (dispatched : Dispatched S) {any any' : Any} (h : AlikeAny any any') :
      RoutedAlike (.ok (dispatched, any)) (.ok (dispatched, any'))
  | err {error error' : CodedError} (h : AlikeError error error') :
      RoutedAlike (.err error) (.err error')

omit [AngzarrProto] in
/-- Payloads that are alike stay so where an absent one is empty. -/
theorem payload_alike {payload payload' : Option Any} (h : Option.Rel AlikeAny payload payload') :
    AlikeAny (payload.getD .default) (payload'.getD .default) := by
  cases h with
  | none => exact ⟨⟨"", by decide, .bare, .bare⟩, rfl⟩
  | some h => exact h

/-- What a table has for the name of a payload, or for that of one alike. -/
theorem routed_alike (table : Table (HandlerFn S)) (arm : HandlerFn S → Dispatched S)
    (reason : AngzarrReason) {any any' : Any} (hany : AlikeAny any any') :
    RoutedAlike
      (match table[type_name_from_url any.type_url]? with
        | some thunk => .ok (arm thunk, any)
        | none => .err (.unknown_type reason any.type_url))
      (match table[type_name_from_url any'.type_url]? with
        | some thunk => .ok (arm thunk, any')
        | none => .err (.unknown_type reason any'.type_url)) := by
  rw [hany.type_name]
  cases table[type_name_from_url any'.type_url]? with
  | none => exact .err (unknown_type_alike reason hany.type_url)
  | some thunk => exact .ok (arm thunk) hany

/-- Inputs that are alike reach one handler. -/
theorem route_alike {page page' : Option pb.CommandPage}
    (hpage : Option.Rel AlikeCommandPage page page') :
    RoutedAlike (d.route page .default) (d.route page' .default) := by
  cases hpage with
  | none => exact routed_alike d.handlers .Command .UnknownCommandType (payload_alike .none)
  | @some page page' hpage =>
    obtain ⟨body, _, _⟩ := page
    obtain ⟨body', _, _⟩ := page'
    obtain ⟨hbody, -, -⟩ := hpage
    cases hbody with
    | none => exact routed_alike d.handlers .Command .UnknownCommandType (payload_alike .none)
    | some hinput =>
      cases hinput with
      | Command handling hpayload =>
        exact routed_alike d.handlers .Command .UnknownCommandType (payload_alike hpayload)
      | Fact origin hpayload =>
        exact routed_alike d.facts .Fact .NoFactHandler (payload_alike hpayload)

omit [AngzarrProto] in
/-- They are a command or a fact alike, under the same ids. -/
theorem arm_of_alike {page page' : Option pb.CommandPage}
    (hpage : Option.Rel AlikeCommandPage page page') :
    arm_of page = arm_of page' ∧ page.bind (·.command_id) = page'.bind (·.command_id) ∧
      page.bind (·.correlation_id) = page'.bind (·.correlation_id) := by
  cases hpage with
  | none => exact ⟨rfl, rfl, rfl⟩
  | @some page page' hpage =>
    obtain ⟨body, _, _⟩ := page
    obtain ⟨body', _, _⟩ := page'
    obtain ⟨hbody, rfl, rfl⟩ := hpage
    refine ⟨?_, rfl, rfl⟩
    cases hbody with
    | none => rfl
    | some hinput => cases hinput <;> rfl

omit [AngzarrProto] in
/-- Requests that are alike carry inputs that are. -/
theorem page_alike {req req' : hpb.HandleRequest} (hreq : AlikeRequest req req') :
    Option.Rel AlikeCommandPage (req.input.bind (·.page)) (req'.input.bind (·.page)) := by
  obtain ⟨input, _, _, _⟩ := req
  obtain ⟨input', _, _, _⟩ := req'
  obtain ⟨hinput, -, -, -⟩ := hreq
  cases hinput with
  | none => exact .none
  | some h => exact h.page

omit [AngzarrProto] in
/-- A handler's context tells it nothing of its request's URLs. -/
theorem context_alike {req req' : hpb.HandleRequest} (hreq : AlikeRequest req req') :
    command_context req = command_context req' ∧ decision_cover req = decision_cover req' := by
  have hpage := arm_of_alike (page_alike hreq)
  obtain ⟨input, history, _, _⟩ := req
  obtain ⟨input', history', _, _⟩ := req'
  obtain ⟨hinput, hhistory, rfl, rfl⟩ := hreq
  have hcover : input.bind (·.cover) = input'.bind (·.cover) := by
    cases hinput with
    | none => rfl
    | some h => exact h.cover
  have hbook : next_sequence history = next_sequence history' ∧
      history.bind (·.cover) = history'.bind (·.cover) ∧
      (history.any fun b => !b.pages.isEmpty || b.snapshot.isSome) =
        history'.any fun b => !b.pages.isEmpty || b.snapshot.isSome := by
    cases hhistory with
    | none => exact ⟨rfl, rfl, rfl⟩
    | @some book book' h =>
      refine ⟨h.next_sequence, h.cover, ?_⟩
      rw [Option.any_some, Option.any_some, h.snapshot, h.pages.isEmpty]
  constructor
  · simp only [command_context, hcover, hbook.1, hbook.2.2, hpage]
  · simp only [decision_cover, command_context, hcover, hbook.2.1]

/-- The handler picked does one thing with payloads alike. -/
theorem thunk_alike (hblind : d.Blind) {page : Option pb.CommandPage} {dispatched : Dispatched S}
    {any any' picked : Any} (hroute : d.route page .default = .ok (dispatched, picked))
    (hany : AlikeAny any any') (state : S) (ctx : CommandContext) :
    dispatched.thunk any state ctx = dispatched.thunk any' state ctx := by
  unfold route at hroute
  split at hroute
  · simp only at hroute
    split at hroute
    · rename_i thunk hthunk
      obtain ⟨rfl, -⟩ := Prod.mk.inj (Outcome.ok.inj hroute)
      exact hblind.facts _ thunk hthunk state ctx any any' hany
    · cases hroute
  · simp only at hroute
    split at hroute
    · rename_i thunk hthunk
      obtain ⟨rfl, -⟩ := Prod.mk.inj (Outcome.ok.inj hroute)
      exact hblind.handlers _ thunk hthunk state ctx any any' hany
    · cases hroute

/-- A request alike reaches the same handler, with a payload alike and the same
state. -/
theorem starts_alike (hblind : d.Blind) {req req' : hpb.HandleRequest} (hreq : AlikeRequest req req')
    {dispatched : Dispatched S} {any : Any} {state : S}
    (hstarts : d.Starts req dispatched any state) :
    ∃ any', d.Starts req' dispatched any' state ∧ AlikeAny any any' := by
  obtain ⟨hroute, info, hrebuild⟩ := hstarts
  have hrouted := d.route_alike (page_alike hreq)
  rw [hroute] at hrouted
  generalize hroute' : d.route (req'.input.bind (·.page)) .default = routed' at hrouted
  cases hrouted with
  | ok dispatched hany =>
    have hrebuilt := d.rebuilder.rebuild_alike hblind.rebuilder hreq.history
    exact ⟨_, ⟨hroute', info, hrebuilt.eq_ok.mp hrebuild⟩, hany⟩

variable [BuildProfile]

/-- A request alike passes the same turns. -/
theorem passes_alike (hblind : d.Blind) {req req' : hpb.HandleRequest} (hreq : AlikeRequest req req')
    {dispatched : Dispatched S} {turn : Turn S} (hpasses : d.Passes req dispatched turn) :
    d.Passes req' dispatched turn := by
  obtain ⟨any, state, emit, hstarts, hthunk, hreaches⟩ := hpasses
  obtain ⟨any', hstarts', hany⟩ := starts_alike hblind hreq hstarts
  obtain ⟨hctx, hcover⟩ := context_alike hreq
  rw [hctx] at hthunk
  rw [hctx, hcover] at hreaches
  rw [thunk_alike hblind hstarts.1 hany] at hthunk
  exact ⟨any', state, emit, hstarts', hthunk, hreaches⟩

/-- A request alike is answered alike. -/
theorem dispatch_alike (hblind : d.Blind) {req req' : hpb.HandleRequest}
    (hreq : AlikeRequest req req') : Alike AlikeError (d.dispatch req) (d.dispatch req') := by
  have hrouted := d.route_alike (page_alike hreq)
  have hrebuilt := d.rebuilder.rebuild_alike hblind.rebuilder hreq.history
  generalize hroute : d.route (req.input.bind (·.page)) .default = routed at hrouted
  generalize hroute' : d.route (req'.input.bind (·.page)) .default = routed' at hrouted
  generalize hrebuild : d.rebuilder.rebuild req.history = rebuilt at hrebuilt
  generalize hrebuild' : d.rebuilder.rebuild req'.history = rebuilt' at hrebuilt
  cases hrouted with
  | err herror =>
    rw [d.dispatch_of_unrouted hroute, d.dispatch_of_unrouted hroute']
    exact .err herror
  | ok dispatched hany =>
    cases hrebuilt with
    | err herror =>
      rw [d.dispatch_of_unrebuilt hroute hrebuild, d.dispatch_of_unrebuilt hroute' hrebuild']
      exact .err herror
    | panic =>
      have hfactory := (d.rebuilder.rebuild_eq_panic_iff _).mp hrebuild
      rw [d.dispatch_of_factory_panic hroute hfactory, d.dispatch_of_factory_panic hroute' hfactory]
      exact .panic
    | ok rebuilt =>
      obtain ⟨state, info⟩ := rebuilt
      obtain ⟨hctx, hcover⟩ := context_alike hreq
      rw [d.dispatch_of_starts ⟨hroute, info, hrebuild⟩,
        d.dispatch_of_starts ⟨hroute', info, hrebuild'⟩, hctx, hcover, decide, decide,
        thunk_alike hblind hroute hany]
      exact .refl AlikeError.refl _

end domain.DomainDispatch

namespace policy.PolicyDispatch

variable {d : PolicyDispatch}

/-- A policy reacts alike to events alike, its failures included. -/
theorem react_alike (hblind : d.Blind) {trigger trigger' : Option pb.EventBook}
    (htrigger : Option.Rel AlikeBook trigger trigger') :
    d.react { trigger } = d.react { trigger := trigger' } := by
  cases htrigger with
  | none => rfl
  | @some book book' hbook =>
    obtain ⟨cover, snapshot, pages, next⟩ := book
    obtain ⟨cover', snapshot', pages', next'⟩ := book'
    obtain ⟨rfl, -, hpages, -⟩ := hbook
    unfold react
    cases hpages with
    | nil => rfl
    | @cons page page' _ _ hpage _ =>
      have hevent := hpage.event
      simp only [List.head?_cons, Option.bind_some]
      generalize page_event page = event at hevent ⊢
      generalize page_event page' = event' at hevent ⊢
      cases hevent with
      | none => rfl
      | @some event event' hany =>
        simp only [Option.map_some, hany.type_name, hpage.sequence, hpage.event_meta]
        cases hhandler : d.handlers[type_name_from_url event'.type_url]? with
        | none => rfl
        | some thunk => simp only [hblind _ thunk hhandler _ event event' hany]

end policy.PolicyDispatch

namespace projector.ProjectorDispatch

variable {P : Type} {d : ProjectorDispatch P}

/-- A projector folds pages alike that are. -/
theorem fold_event_alike (hblind : d.Blind) (cover : pb.Cover) (projection : P)
    {page page' : pb.EventPage} (hpage : AlikePage page page') :
    AlikeCalls AlikeError (d.fold_event cover projection page) (d.fold_event cover projection page') := by
  have hevent := hpage.event
  have herror := page_fold_error_alike .Persisted hpage d.projection_type_url
  unfold fold_event
  generalize page_event page = event at hevent ⊢
  generalize page_event page' = event' at hevent ⊢
  cases hevent with
  | none => exact ⟨rfl, .ok ()⟩
  | @some event event' hany =>
    simp only [hany.type_name, hpage.sequence, hpage.event_meta]
    cases hhandler : d.handlers[type_name_from_url event'.type_url]? with
    | none => exact ⟨rfl, .ok ()⟩
    | some thunk =>
      simp only [hblind.handlers _ thunk hhandler _ _ event event' hany]
      refine AlikeCalls.map_err ⟨rfl, .refl (fun _ => rfl) _⟩ ?_
      rintro cause _ rfl
      exact herror cause

/-- A projector without a batched fold answers runs alike alike. -/
theorem dispatch_alike (hblind : d.Blind) (hfold : d.fold = none) {events events' : Option pb.EventBook}
    (hevents : Option.Rel AlikeBook events events') :
    Alike AlikeError (d.dispatch { events }) (d.dispatch { events := events' }) := by
  have hbook : AlikeBook (events.getD .default) (events'.getD .default) := by
    cases hevents with
    | none => exact ⟨rfl, rfl, .nil, rfl⟩
    | some h => exact h
  unfold dispatch
  simp only [hbook.cover]
  refine (Alike.refl AlikeError.refl _).bind fun projection _ => ?_
  refine AlikeCalls.owned ?_ |>.bind fun folded _ => ?_
  · unfold fold_run
    rw [hfold]
    cases d.consumed ((events'.getD .default).cover.getD .default) with
    | false => exact ⟨rfl, .ok ()⟩
    | true =>
      exact for_each_alike hbook.pages
        (fun projection _ _ => fold_event_alike hblind _ projection) projection
  · unfold answer
    cases hfinish : d.finish with
    | none => exact .ok _
    | some finish =>
      simp only [hblind.finish finish hfinish folded.1 _ _ hbook]
      exact .refl AlikeError.refl _

end projector.ProjectorDispatch

/-- Passes over pages alike, in one state, that pick one callback. -/
structure SamePass {σ β : Type} (picks : pb.EventPage → Option β) (pass pass' : σ × pb.EventPage) :
    Prop where
  state : pass.1 = pass'.1
  page : AlikePage pass.2 pass'.2
  picked : picks pass.2 = picks pass'.2

/-- Two requests go one way through a domain: to the same handler, and the same
steps after it, from a history whose loop runs the same appliers on the same
pages, to answers alike. -/
structure domain.DomainDispatch.SameRun [BuildProfile] {S : Type} (d : DomainDispatch S)
    (req req' : hpb.HandleRequest) : Prop where
  answer : Alike AlikeError (d.dispatch req) (d.dispatch req')
  handler : ∀ dispatched any state, d.Starts req dispatched any state →
    ∃ any', d.Starts req' dispatched any' state ∧ AlikeAny any any'
  turns : ∀ dispatched turn, d.Passes req dispatched turn ↔ d.Passes req' dispatched turn
  pages : ∀ folded, List.Forall₂
    (SamePass fun page => (d.rebuilder.applier_of page).map (·.2))
    (passes (d.rebuilder.rebuild_page (req.history.bind (·.cover))) folded
      (req.history.elim [] (·.pages)))
    (passes (d.rebuilder.rebuild_page (req'.history.bind (·.cover))) folded
      (req'.history.elim [] (·.pages)))

/-- The callback a policy's page picks. -/
def policy.PolicyDispatch.handler_of (d : PolicyDispatch) (page : pb.EventPage) :
    Option policy.EventFn :=
  (page_event page).bind fun event => d.handlers[type_name_from_url event.type_url]?

omit [AngzarrProto] in
/-- A policy has one handler for events alike. -/
theorem policy.PolicyDispatch.handler_of_alike {d : PolicyDispatch} {page page' : pb.EventPage}
    (hpage : AlikePage page page') : d.handler_of page = d.handler_of page' := by
  have hevent := hpage.event
  unfold handler_of
  generalize page_event page = event at hevent ⊢
  generalize page_event page' = event' at hevent ⊢
  cases hevent with
  | none => rfl
  | some hany => rw [Option.bind_some, Option.bind_some, hany.type_name]

/-- The callback a projector's page picks. -/
def projector.ProjectorDispatch.handler_of {P : Type} (d : ProjectorDispatch P)
    (page : pb.EventPage) : Option (projector.EventFn P) :=
  (page_event page).bind fun event => d.handlers[type_name_from_url event.type_url]?

omit [AngzarrProto] in
/-- And so does a projector. -/
theorem projector.ProjectorDispatch.handler_of_alike {P : Type} {d : ProjectorDispatch P}
    {page page' : pb.EventPage} (hpage : AlikePage page page') :
    d.handler_of page = d.handler_of page' := by
  have hevent := hpage.event
  unfold handler_of
  generalize page_event page = event at hevent ⊢
  generalize page_event page' = event' at hevent ⊢
  cases hevent with
  | none => rfl
  | some hany => rw [Option.bind_some, Option.bind_some, hany.type_name]

/-- What stands before the last `/` of a type URL matters to no dispatch: to a
domain's, a policy's reaction, or a projector's page by page. -/
theorem prefixes_do_not_matter [BuildProfile] {S P : Type} :
    (∀ (d : DomainDispatch S) (req req' : hpb.HandleRequest), d.Blind → AlikeRequest req req' →
      d.SameRun req req') ∧
    (∀ (d : PolicyDispatch) (trigger trigger' : Option pb.EventBook), d.Blind →
      Option.Rel AlikeBook trigger trigger' →
      d.react { trigger } = d.react { trigger := trigger' } ∧
        (trigger.bind (·.pages.head?)).bind d.handler_of =
          (trigger'.bind (·.pages.head?)).bind d.handler_of) ∧
    ∀ (d : ProjectorDispatch P) (events events' : Option pb.EventBook), d.Blind → d.fold = none →
      Option.Rel AlikeBook events events' →
      Alike AlikeError (d.dispatch { events }) (d.dispatch { events := events' }) ∧
        ∀ cover projection, List.Forall₂ (SamePass d.handler_of)
          (passes (d.fold_event cover) projection (events.elim [] (·.pages)))
          (passes (d.fold_event cover) projection (events'.elim [] (·.pages))) := by
  refine ⟨fun d req req' hblind hreq => ?_,
    fun d trigger trigger' hblind htrigger => ⟨d.react_alike hblind htrigger, ?_⟩,
    fun d events events' hblind hfold hevents => ⟨d.dispatch_alike hblind hfold hevents, ?_⟩⟩
  · refine ⟨d.dispatch_alike hblind hreq, fun _ _ _ => d.starts_alike hblind hreq,
      fun _ _ => ⟨d.passes_alike hblind hreq, d.passes_alike hblind hreq.symm⟩, fun folded => ?_⟩
    have hhistory := hreq.history
    generalize req.history = history at hhistory ⊢
    generalize req'.history = history' at hhistory ⊢
    cases hhistory with
    | none => exact .nil
    | some hbook =>
      simp only [Option.bind_some, Option.elim_some, hbook.cover]
      refine (calls.passes_alike hbook.pages (fun folded _ _ =>
        d.rebuilder.rebuild_page_alike hblind.rebuilder _ folded) folded).imp ?_
      rintro pass pass' ⟨hstate, hpage⟩
      exact ⟨hstate, hpage, d.rebuilder.applier_of_alike hpage⟩
  · cases htrigger with
    | none => rfl
    | some hbook =>
      have hfirst := hbook.pages.getElem? 0
      rw [← List.head?_eq_getElem?, ← List.head?_eq_getElem?] at hfirst
      simp only [Option.bind_some]
      generalize List.head? _ = first at hfirst ⊢
      generalize List.head? _ = first' at hfirst ⊢
      cases hfirst with
      | none => rfl
      | some hpage => exact d.handler_of_alike hpage
  · intro cover projection
    cases hevents with
    | none => exact .nil
    | some hbook =>
      refine (calls.passes_alike hbook.pages (fun projection _ _ =>
        d.fold_event_alike hblind cover projection) projection).imp ?_
      rintro pass pass' ⟨hstate, hpage⟩
      exact ⟨hstate, hpage, d.handler_of_alike hpage⟩

end

namespace domain.shelf

/-- An `Add` to a stream of one recorded event, under the URLs given. -/
def add_as (add_url added_url : String) : hpb.HandleRequest where
  input := some
    { cover := some cover
      page := some
        { body := some (.Command
            { payload := some { type_url := add_url, value := [] }, handling := none })
          command_id := none
          correlation_id := none } }
  history := some
    { cover := some cover
      snapshot := none
      pages := [{ body := some (.Event { type_url := added_url, value := [] })
                  event_meta := none
                  sequence := 0 }]
      next_sequence := 1 }
  recorded_at := none
  causation := none

/-- Reacts to an addition with a count. -/
def recount : PolicyDispatch :=
  PolicyDispatch.new.on_event "shop.Added" fun any _ =>
    .ok [policy.command none { type_url := "/shop.Count", value := any.value }]

/-- Counts what is added. -/
def count : ProjectorDispatch Nat :=
  (ProjectorDispatch.new fun _ => .ok 0).on_event "shop.Added" fun n _ _ => (n + 1, .ok ())

theorem alike_as {name : String} (hname : '/' ∉ name.toList) (front front' : String) :
    AlikeAny { type_url := front ++ "/" ++ name, value := [] }
      { type_url := front' ++ "/" ++ name, value := [] } :=
  ⟨⟨name, hname, .under front, .under front'⟩, rfl⟩

theorem add_alike : AlikeRequest (add_as ("" ++ "/" ++ "shop.Add") ("" ++ "/" ++ "shop.Added"))
    (add_as ("type.shop" ++ "/" ++ "shop.Add") ("a/b" ++ "/" ++ "shop.Added")) :=
  ⟨.some ⟨rfl, .some ⟨.some (.Command none (.some (alike_as (by decide) _ _))), rfl, rfl⟩⟩,
    .some ⟨rfl, rfl, .cons ⟨.some (.Event (alike_as (by decide) _ _)), rfl, rfl⟩ .nil, rfl⟩, rfl, rfl⟩

theorem of_only_entry {V : Type} {key name : String} {value found : V}
    (h : ((∅ : Table V).insert key value)[name]? = some found) : found = value := by
  rw [Std.ExtTreeMap.getElem?_insert] at h
  split at h
  · exact (Option.some.inj h).symm
  · simp at h

theorem dispatch_blind : dispatch.Blind where
  rebuilder :=
    { appliers := fun name thunk happlier state ctx any any' _ => by
        rw [of_only_entry happlier]
      fold := fun _ hfold => nomatch hfold }
  handlers := fun name thunk hhandler state ctx any any' _ => by
    rw [of_only_entry hhandler]
    rfl
  facts := fun name thunk hfact => by
    simp [dispatch, DomainDispatch.new, DomainDispatch.on_command] at hfact

theorem recount_blind : recount.Blind := by
  intro name thunk hhandler ctx any any' hany
  rw [of_only_entry hhandler]
  simp only [hany.value]

theorem count_blind : count.Blind where
  handlers := fun name thunk hhandler projection ctx any any' _ => by rw [of_only_entry hhandler]
  finish := fun _ hfinish => nomatch hfinish

open declared in
/-- An `Add` is answered alike, is reacted to alike and counts alike, under
whatever URLs. -/
theorem prefixes_do_not_matter_shelf :
    dispatch.SameRun (add_as ("" ++ "/" ++ "shop.Add") ("" ++ "/" ++ "shop.Added"))
        (add_as ("type.shop" ++ "/" ++ "shop.Add") ("a/b" ++ "/" ++ "shop.Added")) ∧
      recount.react { trigger := (add_as "" ("" ++ "/" ++ "shop.Added")).history } =
        recount.react { trigger := (add_as "" ("a/b" ++ "/" ++ "shop.Added")).history } ∧
      Alike AlikeError
        (count.dispatch { events := (add_as "" ("" ++ "/" ++ "shop.Added")).history })
        (count.dispatch { events := (add_as "" ("a/b" ++ "/" ++ "shop.Added")).history }) := by
  obtain ⟨hdomain, hpolicy, hprojector⟩ := prefixes_do_not_matter (S := Nat) (P := Nat)
  exact ⟨hdomain dispatch _ _ dispatch_blind add_alike,
    (hpolicy recount _ _ recount_blind add_alike.history).1,
    (hprojector count _ _ count_blind rfl add_alike.history).1⟩

end domain.shelf

end angzarr_router
