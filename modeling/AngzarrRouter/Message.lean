import AngzarrRouter.Domain.Legal
import AngzarrRouter.Text.Split

open calls
open angzarr_router.error

namespace angzarr_router

/-- A canonical type URL names the type it was made from. -/
theorem type_name_of_type_url {full_name : String} (hname : '/' ∉ full_name.toList) :
    type_name_from_url (type_url full_name) = full_name := by
  have hkept : ∀ c ∈ full_name.toList, decide (c ≠ '/') = true :=
    fun c hc => decide_eq_true fun heq => hname (heq ▸ hc)
  have htext : (type_url full_name).toList = [] ++ '/' :: full_name.toList := by
    rw [type_url, String.toList_append]
    rfl
  rw [type_name_from_url, ← String.toList_inj, String.toList_ofList, htext]
  exact text.rtakeWhile_append [] rfl hkept

/-- `prost::Name`: a message type's fully-qualified name. -/
class Name (M : Type) where
  full_name : String

/-- What the router takes from a generated message type (`prost::Message`): an
encoding, and the decoder that reads it back, whatever else it may accept, with
a text for what it does not. -/
class Message (M : Type) where
  encode_to_vec : M → List UInt8
  decode : List UInt8 → Except String M
  decode_encode_to_vec : ∀ message, decode (encode_to_vec message) = .ok message

section

variable {M : Type} [Name M] [Message M]

/-- Decodes bytes a host handed the router as the message `M`: bytes that do not
are undecodable, naming `M`. -/
def decode_message [AngzarrProto] (bytes : List UInt8) : Outcome CodedError M :=
  match Message.decode bytes with
  | .ok message => .ok message
  | .error error => .err (.undecodable (Name.full_name M) error)

theorem decode_message_encode [AngzarrProto] (message : M) :
    decode_message (Message.encode_to_vec message) = .ok message := by
  unfold decode_message
  rw [Message.decode_encode_to_vec]

theorem decode_message_eq_ok [AngzarrProto] {bytes : List UInt8} {message : M}
    (hdecode : decode_message bytes = .ok message) : Message.decode bytes = .ok message := by
  unfold decode_message at hdecode
  cases hbytes : (Message.decode bytes : Except String M) with
  | ok found =>
    rw [hbytes] at hdecode
    exact congrArg Except.ok (Outcome.ok.inj hdecode)
  | error error =>
    rw [hbytes] at hdecode
    cases hdecode

end

namespace rebuild

variable {S : Type} [Inhabited S] [Name S] [Message S]

/-- A rebuilder whose state is its own message: the message's default, type and
encoding. -/
def Rebuilder.of_message : Rebuilder S :=
  ((Rebuilder.new fun _ => .ok default).with_state_type (Name.full_name S)).with_state_codec
    (fun start =>
      match Message.decode start.value with
      | .ok state => .ok state
      | .error error => .err (.Other error))
    fun state =>
      .ok { type_url := type_url (Name.full_name S), value := Message.encode_to_vec state }

/-- Such a rebuilder reads back the states it encodes, whatever appliers it is
given. -/
theorem Rebuilder.roundTrips_of_message (appliers : Table (ApplierFn S)) :
    domain.RoundTrips { (Rebuilder.of_message : Rebuilder S) with appliers } := by
  intro codec hcodec state encoded hencode
  obtain rfl := Option.some.inj hcodec
  obtain rfl := Outcome.ok.inj hencode
  dsimp only
  rw [Message.decode_encode_to_vec]

end rebuild

end angzarr_router
