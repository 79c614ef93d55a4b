import AngzarrRouter.Calls.Outcome
import AngzarrRouter.Wire

open calls

namespace angzarr_router.error

/-- The gRPC statuses the router emits. -/
inductive GrpcCode where
  | Unknown
  | InvalidArgument
  | DeadlineExceeded
  | NotFound
  | AlreadyExists
  | PermissionDenied
  | ResourceExhausted
  | FailedPrecondition
  | Aborted
  | OutOfRange
  | Unimplemented
  | Internal
  | Unavailable
  | DataLoss
deriving DecidableEq, Repr

/-- Where a reason key travels (`angzarr_proto::ReasonSurface`): as a gRPC
status of that wire number, or only as a readiness refusal. -/
inductive ReasonSurface where
  | GrpcStatus (code : Int)
  | Readiness
deriving DecidableEq, Repr

/-- The status whose wire number is `number`, when the router emits it. -/
def GrpcCode.from_wire (number : Int) : Option GrpcCode :=
  match number with
  | 2 => some .Unknown
  | 3 => some .InvalidArgument
  | 4 => some .DeadlineExceeded
  | 5 => some .NotFound
  | 6 => some .AlreadyExists
  | 7 => some .PermissionDenied
  | 8 => some .ResourceExhausted
  | 9 => some .FailedPrecondition
  | 10 => some .Aborted
  | 11 => some .OutOfRange
  | 12 => some .Unimplemented
  | 13 => some .Internal
  | 14 => some .Unavailable
  | 15 => some .DataLoss
  | _ => none

/-- The status a key travels with, from the surface its option declares. -/
def GrpcCode.of_surface (surface : Option ReasonSurface) : Option GrpcCode :=
  match surface with
  | some (.GrpcStatus code) => GrpcCode.from_wire code
  | some .Readiness => none
  | none => none

/-- The statuses a handler picks from for a bug it marks retryable. -/
inductive RetryableStatus where
  | Unavailable
  | DeadlineExceeded
  | ResourceExhausted
deriving DecidableEq, Repr

def GrpcCode.of_retryable : RetryableStatus → GrpcCode
  | .Unavailable => .Unavailable
  | .DeadlineExceeded => .DeadlineExceeded
  | .ResourceExhausted => .ResourceExhausted

/-- The statuses a typed refusal may carry, and only those. -/
inductive BusinessStatus where
  | FailedPrecondition
  | InvalidArgument
  | NotFound
  | AlreadyExists
  | OutOfRange
  | PermissionDenied
deriving DecidableEq, Repr

def GrpcCode.of_business : BusinessStatus → GrpcCode
  | .FailedPrecondition => .FailedPrecondition
  | .InvalidArgument => .InvalidArgument
  | .NotFound => .NotFound
  | .AlreadyExists => .AlreadyExists
  | .OutOfRange => .OutOfRange
  | .PermissionDenied => .PermissionDenied

/-- A status a host hands over at run time, checked: a non-business status is
refused with itself. -/
def BusinessStatus.try_from (code : GrpcCode) : Except GrpcCode BusinessStatus :=
  match code with
  | .FailedPrecondition => .ok .FailedPrecondition
  | .InvalidArgument => .ok .InvalidArgument
  | .NotFound => .ok .NotFound
  | .AlreadyExists => .ok .AlreadyExists
  | .OutOfRange => .ok .OutOfRange
  | .PermissionDenied => .ok .PermissionDenied
  | other => .error other

/-- The reason keys the router raises (of core's `AngzarrReason`). -/
inductive AngzarrReason where
  | UnknownCommandType
  | NoFactHandler
  | AnyDecodeFailed
  | PersistedEventCorrupt
  | FoldFailed
  | FoldFailedEmitted
  | UnhandledHandlerError
  | HandlerPanicked
  | CommandRefused
  | NoRefusalHandler
  | NoHandlersRegistered
  | DuplicateComponent
  | NoComponentOfKind
deriving DecidableEq, Repr

/-- The args' names `reasons.proto` declares (`angzarr_proto::v1::reason_args`). -/
structure ReasonArgs where
  TYPE_URL : String
  MESSAGE_TYPE : String
  EXT_ERR_TXT : String
  SEQUENCE : String
  FIRST_SEQUENCE : String
  LAST_SEQUENCE : String
  STATE_TYPE_URL : String
  CAUSE : String
  REFUSAL_TYPE : String
  COMMAND_TYPE : String
  REGISTERED : String
  REFUSED : String

/-- What the router takes from the generated crate angzarr-proto: each key's
name and declared surface, the args' names, and the wire numbers of
`io.angzarr.v1.RefusalStatus`. -/
class AngzarrProto where
  as_str_name : AngzarrReason → String
  surface : AngzarrReason → Option ReasonSurface
  reason_args : ReasonArgs
  refusal_status : BusinessStatus → Int

/-- Where a failing fold failed: the page, when known, else the batch's
sequence range. -/
inductive FoldAt where
  | Page (sequence : UInt64) (type_url : String)
  | Range (first last : UInt64)
deriving DecidableEq, Repr

/-- A failure as a key and an argument map, with the status it travels with
and, for a typed refusal only, its refusal object. -/
structure CodedError where
  code : String
  extras : Table String
  grpc : GrpcCode
  refusal : Option Any
deriving DecidableEq

/-- What a handler may fail with: a coded error, or an unclassified one whose
text stays in its own log. -/
inductive HandlerError where
  | Coded (error : CodedError)
  | Other (text : String)
deriving DecidableEq

/-- What an applier or a codec may fail with (`Box<dyn Error + Send + Sync>`),
as far as `downcast_ref::<CodedError>` tells one from another. -/
inductive BoxError where
  | Coded (error : CodedError)
  | Other (text : String)
deriving DecidableEq

/-- `code` under `name`, each of its args under `<name>.<arg>`. -/
def flatten (name code : String) (args : List (String × String)) : List (String × String) :=
  (name, code) :: args.map fun (arg, value) => (name ++ "." ++ arg, value)

namespace CodedError

def coded (code : String) (extras : List (String × String)) (grpc : GrpcCode) : CodedError :=
  { code, extras := .ofList extras, grpc, refusal := none }

/-- This error as a key and args. -/
def diagnostic (self : CodedError) : pb.Diagnostic := { code := self.code, args := self.extras }

section

variable [AngzarrProto]

/-- The router's own key `reason` with its args, under the status its option
declares. -/
def keyed (reason : AngzarrReason) (extras : List (String × String)) : CodedError :=
  coded (AngzarrProto.as_str_name reason) extras
    ((GrpcCode.of_surface (AngzarrProto.surface reason)).getD .Internal)

/-- An input whose type URL reaches no registered handler. -/
def unknown_type (reason : AngzarrReason) (type_url : String) : CodedError :=
  keyed reason [(AngzarrProto.reason_args.TYPE_URL, type_url)]

/-- Bytes that do not decode as the message `message_type`, with the decoder's
own text. -/
def undecodable (message_type error : String) : CodedError :=
  keyed .AnyDecodeFailed
    [(AngzarrProto.reason_args.MESSAGE_TYPE, message_type),
      (AngzarrProto.reason_args.EXT_ERR_TXT, error)]

/-- A starting state the codec cannot decode. -/
def persisted_corrupt (type_url : String) : CodedError :=
  keyed .PersistedEventCorrupt [(AngzarrProto.reason_args.TYPE_URL, type_url)]

/-- A fold that failed at `place`, its own failure flattened in as `cause`. -/
def fold_failed (reason : AngzarrReason) (place : FoldAt) (state_type_url : String)
    (cause : Option pb.Diagnostic) : CodedError :=
  let located := match place with
    | .Page sequence type_url =>
      [(AngzarrProto.reason_args.SEQUENCE, toString sequence),
        (AngzarrProto.reason_args.TYPE_URL, type_url)]
    | .Range first last =>
      [(AngzarrProto.reason_args.FIRST_SEQUENCE, toString first),
        (AngzarrProto.reason_args.LAST_SEQUENCE, toString last)]
  let details := located ++ [(AngzarrProto.reason_args.STATE_TYPE_URL, state_type_url)]
  match cause with
  | some cause =>
    keyed reason (details ++ flatten AngzarrProto.reason_args.CAUSE cause.code cause.args.toList)
  | none => keyed reason details

/-- An unclassified error that escaped a handler: no cause. -/
def unhandled : CodedError := keyed .UnhandledHandlerError []

/-- A bug: `code` and `details` go out as the cause. -/
def bug (code : String) (details : List (String × String)) : CodedError :=
  keyed .UnhandledHandlerError (flatten AngzarrProto.reason_args.CAUSE code details)

/-- A handler that panicked. -/
def panicked : CodedError := bug (AngzarrProto.as_str_name .HandlerPanicked) []

/-- A bug under the retryable status the handler picks. -/
def retryable_bug (status : RetryableStatus) (code : String) (details : List (String × String)) :
    CodedError :=
  coded (AngzarrProto.as_str_name .UnhandledHandlerError)
    (flatten AngzarrProto.reason_args.CAUSE code details) (.of_retryable status)

/-- A typed refusal: its object, under the status its message declares. -/
def refused (status : BusinessStatus) (refusal : Any) : CodedError :=
  { keyed .CommandRefused
      [(AngzarrProto.reason_args.REFUSAL_TYPE, type_name_from_url refusal.type_url)] with
    grpc := .of_business status
    refusal := some refusal }

/-- This error's typed refusal as Translate receives it, when it is one. -/
def as_refusal (self : CodedError) : Option hpb.Refusal :=
  match self.refusal, BusinessStatus.try_from self.grpc with
  | some typed, .ok status =>
    some { status := AngzarrProto.refusal_status status, typed := some typed }
  | _, _ => none

/-- This error as a fact's handling answers it: a refusal, a business status
or ABORTED becomes the bug it is, its refusal object dropped. -/
def as_fact_failure (self : CodedError) : CodedError :=
  let bug_status := decide (self.grpc = .Aborted) || (BusinessStatus.try_from self.grpc).isOk ||
    self.refusal.isSome
  if !bug_status then self else bug self.code self.extras.toList

end

/-- "Re-read and re-decide": ABORTED under the handler's own `code`. -/
def immediate (code : String) (details : List (String × String)) : CodedError :=
  coded code details .Aborted

end CodedError

section

variable [AngzarrProto]

/-- The one handler-error mapping. -/
def map_handler_error : HandlerError → CodedError
  | .Coded coded => coded
  | .Other _ => .unhandled

/-- Runs a handler, answering its panic as a bug and mapping its error. -/
def call_handler {α : Type} (handler : Outcome HandlerError α) : Outcome CodedError α :=
  match handler.catch_unwind with
  | .ok (.ok answer) => .ok answer
  | .ok (.error error) => .err (map_handler_error error)
  | .error () => .err .panicked

variable {α : Type}

@[simp] theorem call_handler_ok (answer : α) : call_handler (.ok answer) = .ok answer := rfl

@[simp] theorem call_handler_err (error : HandlerError) :
    call_handler (.err error : Outcome HandlerError α) = .err (map_handler_error error) := rfl

@[simp] theorem call_handler_panic :
    call_handler (.panic : Outcome HandlerError α) = .err .panicked := rfl

/-- A guarded handler never unwinds. -/
theorem call_handler_ne_panic (handler : Outcome HandlerError α) :
    call_handler handler ≠ .panic := by
  cases handler <;> simp

end

end angzarr_router.error
