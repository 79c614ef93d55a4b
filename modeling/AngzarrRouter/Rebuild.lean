import AngzarrRouter.Calls.Fold
import AngzarrRouter.Context
import AngzarrRouter.Error

open calls
open angzarr_router.error

namespace angzarr_router.rebuild

variable {S : Type}

/-- Folds one event payload into state, seeing where the event sits. -/
abbrev ApplierFn (S : Type) : Type := S → Any → PageContext → MutCall S BoxError Unit

/-- Decodes a delivered starting state into state. -/
abbrev DecodeFn (S : Type) : Type := Any → Outcome BoxError S

/-- Encodes state as an `Any`. It answers no error, but it may unwind. -/
abbrev EncodeFn (S : Type) : Type := S → Outcome Empty Any

structure StateCodec (S : Type) where
  decode : DecodeFn S
  encode : EncodeFn S

/-- What the rebuild consumed. -/
structure RebuildInfo where
  had_prior_events : Bool
  applied_count : Nat
deriving DecidableEq, Repr

/-- `RebuildInfo::default()`. -/
def RebuildInfo.default : RebuildInfo := { had_prior_events := false, applied_count := 0 }

/-- How a batched fold failed: the failing page's index within its batch and
its own failure, each when it has one. -/
structure FoldFailure where
  page_index : Option Nat
  cause : Option pb.Diagnostic
deriving DecidableEq

/-- Folds a batch of pages into state in one call. -/
abbrev FoldFn (S : Type) : Type :=
  S → List pb.EventPage → Option pb.Cover → MutCall S FoldFailure Unit

/-- Makes a fresh state. It answers no error, but it may unwind. -/
abbrev FactoryFn (S : Type) : Type := Unit → Outcome Empty S

/-- Reconstructs state of type `S`. Business callbacks are functions of what
they are handed; `S` is any type, so a state may as well count its own folds
and let each of them end as it likes. -/
structure Rebuilder (S : Type) where
  factory : FactoryFn S
  codec : Option (StateCodec S)
  appliers : Table (ApplierFn S)
  fold : Option (FoldFn S)
  state_type_url : String

/-- Where the pages a fold failed on came from. -/
inductive PageOrigin where
  | Persisted
  | Emitted
deriving DecidableEq, Repr

def PageOrigin.reason : PageOrigin → AngzarrReason
  | .Persisted => .FoldFailed
  | .Emitted => .FoldFailedEmitted

section

variable [AngzarrProto]

/-- The error for a fold that failed on `page`. -/
def page_fold_error (origin : PageOrigin) (page : pb.EventPage) (state_type_url : String)
    (cause : Option pb.Diagnostic) : CodedError :=
  let type_url := match page_event page with
    | some e => e.type_url
    | none => ""
  .fold_failed origin.reason (.Page page.sequence type_url) state_type_url cause

/-- The error for a fold of `pages` that failed with `failure`: it names the
page the index points at, or the batch's range when it points at none. -/
def fold_error (origin : PageOrigin) (pages : List pb.EventPage) (failure : FoldFailure)
    (state_type_url : String) : CodedError :=
  match failure.page_index.bind (pages[·]?) with
  | some page => page_fold_error origin page state_type_url failure.cause
  | none =>
    let place := .Range (pages.head?.elim 0 (·.sequence)) (pages.getLast?.elim 0 (·.sequence))
    .fold_failed origin.reason place state_type_url failure.cause

/-- An applier's failure as a fold's cause: none unless it is coded. -/
def applier_cause (err : BoxError) : Option pb.Diagnostic :=
  match err with
  | .Coded coded => some coded.diagnostic
  | .Other _ => none

/-- A panicking fold's cause, with no args. -/
def panicked_cause : pb.Diagnostic :=
  { code := AngzarrProto.as_str_name .HandlerPanicked, args := ∅ }

/-- Runs an applier on one event: its failure, or its panic, as the fold's
cause. -/
def run_applier (thunk : ApplierFn S) (state : S) (event : Any) (ctx : PageContext) :
    MutCall S (Option pb.Diagnostic) Unit :=
  let (state, call) := thunk state event ctx
  match call.catch_unwind with
  | .ok (.ok ()) => (state, .ok ())
  | .ok (.error err) => (state, .err (applier_cause err))
  | .error () => (state, .err (some panicked_cause))

/-- Runs a batched fold: its panic is a failure at no known page. -/
def run_fold (fold : FoldFn S) (state : S) (pages : List pb.EventPage) (cover : Option pb.Cover) :
    MutCall S FoldFailure Unit :=
  let (state, call) := fold state pages cover
  match call.catch_unwind with
  | .ok (.ok ()) => (state, .ok ())
  | .ok (.error failure) => (state, .err failure)
  | .error () => (state, .err { page_index := none, cause := some panicked_cause })

end

/-- The type URL a component declares for `full_name`: none for an empty one. -/
def declared_type_url (full_name : String) : String :=
  if full_name.isEmpty then "" else type_url full_name

namespace Rebuilder

def new (factory : FactoryFn S) : Rebuilder S :=
  { factory, codec := none, appliers := ∅, fold := none, state_type_url := "" }

def with_state_codec (self : Rebuilder S) (decode : DecodeFn S) (encode : EncodeFn S) :
    Rebuilder S :=
  { self with codec := some { decode, encode } }

def with_state_type (self : Rebuilder S) (full_name : String) : Rebuilder S :=
  { self with state_type_url := declared_type_url full_name }

def apply_with_context (self : Rebuilder S) (full_name : String) (thunk : ApplierFn S) :
    Rebuilder S :=
  { self with appliers := self.appliers.insert full_name thunk }

def apply (self : Rebuilder S) (full_name : String) (thunk : S → Any → MutCall S BoxError Unit) :
    Rebuilder S :=
  self.apply_with_context full_name fun state any _ => thunk state any

def with_fold (self : Rebuilder S) (fold : FoldFn S) : Rebuilder S :=
  { self with fold := some fold }

/-- `state` encoded by the state's codec, when there is one. -/
def encode_state (self : Rebuilder S) (state : S) : Outcome Empty (Option Any) :=
  match self.codec with
  | some codec => (codec.encode state).map some
  | none => .ok none

/-- The state that `rebuild` opens with: nothing guards the factory's call. -/
def fresh (self : Rebuilder S) : Outcome CodedError S := (self.factory ()).map_err Empty.elim

/-- A fresh state is the one that the factory makes. -/
theorem fresh_eq_ok_iff {self : Rebuilder S} {state : S} :
    self.fresh = .ok state ↔ self.factory () = .ok state := by
  unfold fresh
  cases self.factory () <;> simp

/-- There is none exactly where the factory panics. -/
theorem fresh_eq_panic_iff {self : Rebuilder S} : self.fresh = .panic ↔ self.factory () = .panic :=
  Outcome.map_err_eq_panic_iff

/-- A factory answers no error. -/
theorem fresh_ne_err (self : Rebuilder S) (error : CodedError) : self.fresh ≠ .err error := by
  unfold fresh
  cases self.factory () with
  | ok state => simp
  | err impossible => exact impossible.elim
  | panic => simp

variable [AngzarrProto]

/-- The state `rebuild` starts folding `book`'s pages from: the starting state
the book carries, decoded, or the factory's. -/
def starting_state (self : Rebuilder S) (book : pb.EventBook) : Outcome CodedError S := do
  let state ← self.fresh
  match book.snapshot, self.codec with
  | some snapshot, some codec =>
    match snapshot.state with
    | some start =>
      match (codec.decode start).catch_unwind with
      | .ok (.ok decoded) => .ok decoded
      | .ok (.error _) => .err (.persisted_corrupt start.type_url)
      -- A panic is a defect in the codec, not corrupt data.
      | .error () =>
        .err (.fold_failed .FoldFailed (.Page snapshot.sequence start.type_url)
          self.state_type_url (some panicked_cause))
    | none => .ok state
  | _, _ => .ok state

/-- One pass of `rebuild`'s page loop, over the state and what it counts. -/
def rebuild_page (self : Rebuilder S) (cover : Option pb.Cover) (folded : S × RebuildInfo)
    (page : pb.EventPage) : MutCall (S × RebuildInfo) CodedError Unit :=
  let (state, info) := folded
  match page_event page with
  | none => ((state, info), .ok ())
  | some event =>
    match self.appliers[type_name_from_url event.type_url]? with
    | none => ((state, info), .ok ())
    | some thunk =>
      let ctx := { cover, sequence := page.sequence, event_meta := page.event_meta }
      match run_applier thunk state event ctx with
      | (state, .ok ()) =>
        ((state, { info with applied_count := info.applied_count + 1 }), .ok ())
      | (state, .err cause) =>
        ((state, info), .err (page_fold_error .Persisted page self.state_type_url cause))
      | (state, .panic) => ((state, info), .panic)

set_option linter.dupNamespace false in
/-- Folds the book into state: the starting state it carries, else fresh
state, then every page in order. An absent book is an empty one. -/
def rebuild (self : Rebuilder S) (book : Option pb.EventBook) :
    Outcome CodedError (S × RebuildInfo) :=
  match book with
  | none => self.fresh.map fun state => (state, .default)
  | some book => do
    let info : RebuildInfo :=
      { had_prior_events := !book.pages.isEmpty || book.snapshot.isSome, applied_count := 0 }
    let state ← self.starting_state book
    match self.fold with
    | some fold =>
      if book.pages.isEmpty then .ok (state, info)
      else
        match run_fold fold state book.pages book.cover with
        | (state, .ok ()) => .ok (state, { info with applied_count := book.pages.length })
        | (_, .err failure) =>
          .err (fold_error .Persisted book.pages failure self.state_type_url)
        | (_, .panic) => .panic
    | none => (for_each (self.rebuild_page book.cover) (state, info) book.pages).owned.map (·.1)

/-- Folds one page through the batched fold when one is registered, else its
applier, answering whether anything ran. -/
def fold_page (self : Rebuilder S) (state : S) (page : pb.EventPage) (cover : Option pb.Cover)
    (origin : PageOrigin) : MutCall S CodedError Bool :=
  match self.fold with
  | some fold =>
    match run_fold fold state [page] cover with
    | (state, .ok ()) => (state, .ok true)
    | (state, .err failure) =>
      (state, .err (fold_error origin [page] failure self.state_type_url))
    | (state, .panic) => (state, .panic)
  | none =>
    match page_event page with
    | none => (state, .ok false)
    | some event =>
      match self.appliers[type_name_from_url event.type_url]? with
      | none => (state, .ok false)
      | some thunk =>
        let ctx := { cover, sequence := page.sequence, event_meta := page.event_meta }
        match run_applier thunk state event ctx with
        | (state, .ok ()) => (state, .ok true)
        | (state, .err cause) =>
          (state, .err (page_fold_error origin page self.state_type_url cause))
        | (state, .panic) => (state, .panic)

/-- Folds one persisted page, answering whether anything ran. -/
def apply_page (self : Rebuilder S) (state : S) (page : pb.EventPage) (cover : Option pb.Cover) :
    MutCall S CodedError Bool :=
  self.fold_page state page cover .Persisted

/-- Folds `pages` of a book with `cover`: through the batched fold in one call
when one is registered (none for no pages), else page by page. -/
def apply_pages (self : Rebuilder S) (state : S) (pages : List pb.EventPage)
    (cover : Option pb.Cover) (origin : PageOrigin) : MutCall S CodedError Unit :=
  match self.fold with
  | some fold =>
    if pages.isEmpty then (state, .ok ())
    else
      match run_fold fold state pages cover with
      | (state, .ok ()) => (state, .ok ())
      | (state, .err failure) => (state, .err (fold_error origin pages failure self.state_type_url))
      | (state, .panic) => (state, .panic)
  | none =>
    for_each (fun state page => (self.fold_page state page cover origin).andThen
      fun state _ => (state, .ok ())) state pages

end Rebuilder

/-- The page an emitted event will be persisted as. -/
def emitted_page (event_meta : pb.EventMeta) (event : Any) (sequence : UInt64) : pb.EventPage :=
  { body := some (.Event event), event_meta := some event_meta, sequence }

/-- `events.iter().zip(next_sequence..)`, each pair as the page it will be: the
open range steps past every number it hands out. -/
def numbered [BuildProfile] (event_meta : pb.EventMeta) :
    List Any → UInt64 → Outcome CodedError (List pb.EventPage)
  | [], _ => .ok []
  | event :: rest, sequence => do
    let following ← u64_add sequence 1
    let pages ← numbered event_meta rest following
    .ok (emitted_page event_meta event sequence :: pages)

/-- Folds `events` a handler emitted, each seen as it will be persisted: at
its sequence, with the meta its coordinator will stamp. -/
def Rebuilder.apply_emitted [AngzarrProto] [BuildProfile] (self : Rebuilder S) (state : S)
    (events : List Any) (cover : Option pb.Cover) (next_sequence : UInt64)
    (event_meta : pb.EventMeta) : MutCall S CodedError Unit :=
  match numbered event_meta events next_sequence with
  | .ok pages => self.apply_pages state pages cover .Emitted
  | .err error => (state, .err error)
  | .panic => (state, .panic)

end angzarr_router.rebuild
