import AngzarrRouter.Error

open calls

namespace angzarr_router.error

/-- The router's own keys travel as bugs: INTERNAL, or DATA_LOSS for a corrupt
starting state. These are the surfaces `reasons.proto` declares. -/
structure AngzarrProto.DeclaresBugs [AngzarrProto] : Prop where
  unknown_command_type : surface .UnknownCommandType = some (.GrpcStatus 13)
  no_fact_handler : surface .NoFactHandler = some (.GrpcStatus 13)
  fold_failed : surface .FoldFailed = some (.GrpcStatus 13)
  fold_failed_emitted : surface .FoldFailedEmitted = some (.GrpcStatus 13)
  unhandled_handler_error : surface .UnhandledHandlerError = some (.GrpcStatus 13)
  persisted_event_corrupt : surface .PersistedEventCorrupt = some (.GrpcStatus 15)

namespace declared

/-- `AngzarrReason::as_str_name`. -/
def as_str_name : AngzarrReason → String
  | .UnknownCommandType => "ANGZARR_REASON_UNKNOWN_COMMAND_TYPE"
  | .NoFactHandler => "ANGZARR_REASON_NO_FACT_HANDLER"
  | .AnyDecodeFailed => "ANGZARR_REASON_ANY_DECODE_FAILED"
  | .PersistedEventCorrupt => "ANGZARR_REASON_PERSISTED_EVENT_CORRUPT"
  | .FoldFailed => "ANGZARR_REASON_FOLD_FAILED"
  | .FoldFailedEmitted => "ANGZARR_REASON_FOLD_FAILED_EMITTED"
  | .UnhandledHandlerError => "ANGZARR_REASON_UNHANDLED_HANDLER_ERROR"
  | .HandlerPanicked => "ANGZARR_REASON_HANDLER_PANICKED"
  | .CommandRefused => "ANGZARR_REASON_COMMAND_REFUSED"
  | .NoRefusalHandler => "ANGZARR_REASON_NO_REFUSAL_HANDLER"
  | .NoHandlersRegistered => "ANGZARR_REASON_NO_HANDLERS_REGISTERED"
  | .DuplicateComponent => "ANGZARR_REASON_DUPLICATE_COMPONENT"
  | .NoComponentOfKind => "ANGZARR_REASON_NO_COMPONENT_OF_KIND"

def surface : AngzarrReason → Option ReasonSurface
  | .PersistedEventCorrupt => some (.GrpcStatus 15)
  | .NoComponentOfKind => some (.GrpcStatus 12)
  | _ => some (.GrpcStatus 13)

def reason_args : ReasonArgs where
  TYPE_URL := "type_url"
  MESSAGE_TYPE := "message_type"
  EXT_ERR_TXT := "ext_err_txt"
  SEQUENCE := "sequence"
  FIRST_SEQUENCE := "first_sequence"
  LAST_SEQUENCE := "last_sequence"
  STATE_TYPE_URL := "state_type_url"
  CAUSE := "cause"
  REFUSAL_TYPE := "refusal_type"
  COMMAND_TYPE := "command_type"
  REGISTERED := "registered"
  REFUSED := "refused"

/-- Wire numbers for `RefusalStatus`. No result depends on which they are. -/
def refusal_status : BusinessStatus → Int
  | .InvalidArgument => 3
  | .NotFound => 5
  | .AlreadyExists => 6
  | .PermissionDenied => 7
  | .FailedPrecondition => 9
  | .OutOfRange => 11

/-- The keys, arg names and statuses, as far as the router's tests pin them. -/
scoped instance angzarr_v1 : AngzarrProto where
  as_str_name := as_str_name
  surface := surface
  reason_args := reason_args
  refusal_status := refusal_status

/-- A build whose integer arithmetic is checked, as the tests' is. -/
scoped instance dev : BuildProfile where
  overflow_checks := true

theorem declares_bugs : AngzarrProto.DeclaresBugs := by
  constructor <;> rfl

end declared

end angzarr_router.error
