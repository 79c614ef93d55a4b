import Mathlib.Data.List.DropRight
import Mathlib.Tactic.Common

namespace angzarr_router

/-- `HashMap<String, V>`, whose order is never read, and `BTreeMap<String, V>`,
in the order of its names. -/
abbrev Table (V : Type) : Type := Std.ExtTreeMap String V

/-- `prost_types::Any`: a packed message, opaque to the router but for its type. -/
structure Any where
  type_url : String
  value : List UInt8
deriving DecidableEq, Repr

/-- `Any::default()`. -/
def Any.default : Any := { type_url := "", value := [] }

/-- `prost_types::Timestamp`. -/
structure Timestamp where
  seconds : Int
  nanos : Int
deriving DecidableEq, Repr

namespace pb

structure Uuid where
  value : List UInt8
deriving DecidableEq, Repr

/-- Which stream: its domain, root and edition. -/
structure Cover where
  domain : String
  root : Option Uuid
  edition : Option String
deriving DecidableEq, Repr

/-- `Cover::default()`. -/
def Cover.default : Cover := { domain := "", root := none, edition := none }

structure FactOrigin where
  external_id : String
  description : String
deriving DecidableEq, Repr

structure EventRef where
  stream : Option Cover
  sequence : UInt64
deriving DecidableEq, Repr

structure CommandCause where
  command_id : Option Uuid
deriving DecidableEq, Repr

structure FactCause where
  command_id : Option Uuid
  origin : Option FactOrigin
deriving DecidableEq, Repr

inductive event_meta.Causation where
  | Command (cause : CommandCause)
  | Fact (cause : FactCause)
deriving DecidableEq, Repr

/-- What a coordinator stamps an event with when it records it. -/
structure EventMeta where
  causation : Option event_meta.Causation
  correlation_id : Option Uuid
  recorded_at : Option Timestamp
  rules_version : String
deriving DecidableEq, Repr

/-- A framework meta-event, held encoded: the router reads nothing in it. -/
structure MetaEvent where
  value : List UInt8
deriving DecidableEq, Repr

inductive event_page.Body where
  | Event (event : Any)
  | MetaEvent (meta_event : MetaEvent)
deriving DecidableEq, Repr

/-- One page of a stream. The wire's `meta` is `event_meta` here. -/
structure EventPage where
  body : Option event_page.Body
  event_meta : Option EventMeta
  sequence : UInt64
deriving DecidableEq, Repr

/-- A starting state the coordinator delivers, at the sequence it was taken. -/
structure Snapshot where
  sequence : UInt64
  state : Option Any
  rules_version : String
deriving DecidableEq, Repr

structure EventBook where
  cover : Option Cover
  snapshot : Option Snapshot
  pages : List EventPage
  next_sequence : UInt64
deriving DecidableEq, Repr

/-- `EventBook::default()`. -/
def EventBook.default : EventBook :=
  { cover := none, snapshot := none, pages := [], next_sequence := 0 }

structure Handling where
  expected_sequence : Option UInt64
deriving DecidableEq, Repr

structure Command where
  payload : Option Any
  handling : Option Handling
deriving DecidableEq, Repr

structure Fact where
  payload : Option Any
  origin : Option FactOrigin
deriving DecidableEq, Repr

inductive command_page.Body where
  | Command (command : Command)
  | Fact (fact : Fact)
deriving DecidableEq, Repr

structure CommandPage where
  body : Option command_page.Body
  command_id : Option Uuid
  correlation_id : Option Uuid
deriving DecidableEq, Repr

structure CommandBook where
  cover : Option Cover
  page : Option CommandPage
deriving DecidableEq, Repr

inductive reaction_delivery.Body where
  | Command (payload : Any)
  | Fact (payload : Any)
deriving DecidableEq, Repr

/-- A policy's output as its coordinator delivers it. -/
structure ReactionDelivery where
  cover : Option Cover
  body : Option reaction_delivery.Body
  command_id : Option Uuid
  correlation_id : Option Uuid
  causation : Option EventRef
  component : String
deriving DecidableEq, Repr

/-- `ReactionDelivery::default()`. -/
def ReactionDelivery.default : ReactionDelivery :=
  { cover := none, body := none, command_id := none, correlation_id := none, causation := none
    component := "" }

/-- An error as a key and its args. -/
structure Diagnostic where
  code : String
  args : Table String
deriving DecidableEq

end pb

namespace hpb

structure HandleRequest where
  input : Option pb.CommandBook
  history : Option pb.EventBook
  recorded_at : Option Timestamp
  causation : Option pb.EventRef
deriving DecidableEq, Repr

structure HandleResponse where
  events : List Any
  state : Option Any
  rules_version : String
deriving DecidableEq, Repr

structure ProjectRequest where
  events : Option pb.EventBook
deriving DecidableEq, Repr

structure ProjectResponse where
  projection : Option Any
deriving DecidableEq, Repr

structure UpcastPages where
  events : List pb.EventPage
deriving DecidableEq, Repr

inductive upcast_request.Input where
  | LonePayload (payload : Any)
  | Pages (pages : UpcastPages)
deriving DecidableEq, Repr

structure UpcastRequest where
  input : Option upcast_request.Input
deriving DecidableEq, Repr

inductive upcasted.Key where
  | NoSequence
  | Sequence (sequence : UInt64)
deriving DecidableEq, Repr

structure Upcasted where
  key : Option upcasted.Key
  payload : Option Any
deriving DecidableEq, Repr

structure UpcastResponse where
  pages : List Upcasted
deriving DecidableEq, Repr

/-- A typed refusal as a refused policy's Translate receives it, its status
by its wire number. -/
structure Refusal where
  status : Int
  typed : Option Any
deriving DecidableEq, Repr

/-- `Refusal::default()`. -/
def Refusal.default : Refusal := { status := 0, typed := none }

inductive output.Body where
  | Command (payload : Any)
  | Fact (payload : Any)
deriving DecidableEq, Repr

/-- One thing a policy asks for: the destination stream's root, and the payload
in the arm of its kind. -/
structure Output where
  root : Option pb.Uuid
  body : Option output.Body
deriving DecidableEq, Repr

structure ReactRequest where
  trigger : Option pb.EventBook
deriving DecidableEq, Repr

structure ReactResponse where
  outputs : List Output
deriving DecidableEq, Repr

/-- `ReactResponse::default()`. -/
def ReactResponse.default : ReactResponse := { outputs := [] }

end hpb

def TYPE_URL_PREFIX : String := "/"

/-- A canonical (bare) type URL from a fully-qualified type name. -/
def type_url (full_name : String) : String := TYPE_URL_PREFIX ++ full_name

/-- The fully-qualified type name of a type URL: what follows its last `/`,
or all of it when it holds none. -/
def type_name_from_url (type_url : String) : String :=
  String.ofList (type_url.toList.rtakeWhile (· ≠ '/'))

/-- The next sequence of a stream: its history's, as the coordinator loaded it. -/
def next_sequence (book : Option pb.EventBook) : UInt64 :=
  match book with
  | some book => book.next_sequence
  | none => 0

/-- A page's domain event; a framework meta-event and a page with no body
have none. -/
def page_event (page : pb.EventPage) : Option Any :=
  match page.body with
  | some (.Event event) => some event
  | _ => none

/-- The payload of a command page's Command arm, when it carries one. -/
def command_payload (page : pb.CommandPage) : Option Any :=
  match page.body with
  | some (.Command command) => command.payload
  | _ => none

/-- Where a folded event sits, and the metadata its page carries. -/
structure PageContext where
  cover : Option pb.Cover
  sequence : UInt64
  event_meta : Option pb.EventMeta
deriving DecidableEq, Repr

end angzarr_router
