import AngzarrRouter.Conformance.Orders
import AngzarrRouter.Proto.Field
import AngzarrRouter.Text.Named

open angzarr_router

namespace angzarr_router_conformance

open orders.v1

namespace wire

/-- A message of one `string` in field 1. -/
def of_string {M : Type} (make : String → M) (message : M) : Nat × proto.Value → Option M
  | (1, .Bytes bytes) => (proto.read_utf8 bytes).map make
  | (1, _) => none
  | _ => some message

/-- A message of one text reads back. -/
theorem merge_string {M : Type} (make : String → M) (text : String) :
    proto.merge (make "") (of_string make) (proto.encode (proto.string 1 text)) = .ok (make text) := by
  refine proto.merge_encode ?_
  unfold proto.string
  split
  · rename_i hempty
    rw [hempty]
    rfl
  · simp [of_string, proto.read_utf8_self]

scoped instance : Message AddItem where
  encode_to_vec message := proto.encode (proto.string 1 message.item)
  decode := proto.merge (AddItem.mk "") (of_string AddItem.mk)
  decode_encode_to_vec message := merge_string AddItem.mk message.item

scoped instance : Message ItemAdded where
  encode_to_vec message := proto.encode (proto.string 1 message.item)
  decode := proto.merge (ItemAdded.mk "") (of_string ItemAdded.mk)
  decode_encode_to_vec message := merge_string ItemAdded.mk message.item

scoped instance : Message ItemDelivered where
  encode_to_vec message := proto.encode (proto.string 1 message.item)
  decode := proto.merge (ItemDelivered.mk "") (of_string ItemDelivered.mk)
  decode_encode_to_vec message := merge_string ItemDelivered.mk message.item

scoped instance : Message OrderNoteAdded where
  encode_to_vec message := proto.encode (proto.string 1 message.note)
  decode := proto.merge (OrderNoteAdded.mk "") (of_string OrderNoteAdded.mk)
  decode_encode_to_vec message := merge_string OrderNoteAdded.mk message.note

/-- A `string` in field 1 beside a `uint32` in field 2, as a map's entries are. -/
def pair_fields (text : String) (n : UInt32) : List (Nat × proto.Value) :=
  proto.string 1 text ++ proto.uint32 2 n

def of_pair (pair : String × UInt32) : Nat × proto.Value → Option (String × UInt32)
  | (1, .Bytes bytes) => (proto.read_utf8 bytes).map fun text => (text, pair.2)
  | (2, .Varint n) => some (pair.1, UInt32.ofNat n)
  | (1, _) => none
  | (2, _) => none
  | _ => some pair

/-- So does an entry of a map. -/
theorem merge_pair (text : String) (n : UInt32) :
    proto.merge ("", 0) of_pair (proto.encode (pair_fields text n)) = .ok (text, n) := by
  refine proto.merge_encode ?_
  have htext : (proto.string 1 text).foldlM of_pair ("", 0) = some (text, 0) := by
    unfold proto.string
    split
    · rename_i hempty
      rw [hempty]
      rfl
    · simp [of_pair, proto.read_utf8_self]
  rw [pair_fields, List.foldlM_append, htext]
  unfold proto.uint32
  split
  · rename_i hzero
    rw [hzero]
    rfl
  · simp [of_pair]

scoped instance : Message ItemOutOfStock where
  encode_to_vec message := proto.encode (pair_fields message.item message.on_hand)
  decode bytes := (proto.merge ("", 0) of_pair bytes).map fun (item, on_hand) => { item, on_hand }
  decode_encode_to_vec message := by
    rw [merge_pair]
    rfl

/-- An order: its items are a map in field 1, its deliveries in field 2, its notes
in field 3. -/
def order_fields (state : OrderState) : List (Nat × proto.Value) :=
  (state.items.toList.map fun (item, count) => (1, .Bytes (proto.encode (pair_fields item count)))) ++
    (state.delivered.map fun item => (2, .Bytes (proto.utf8 item))) ++ proto.string 3 state.notes

def of_order (state : OrderState) : Nat × proto.Value → Option OrderState
  | (1, .Bytes bytes) =>
    (proto.merge ("", 0) of_pair bytes).toOption.map fun (item, count) =>
      { state with items := state.items.insert item count }
  | (2, .Bytes bytes) =>
    (proto.read_utf8 bytes).map fun item => { state with delivered := state.delivered ++ [item] }
  | (3, .Bytes bytes) => (proto.read_utf8 bytes).map fun notes => { state with notes }
  | (1, _) => none
  | (2, _) => none
  | (3, _) => none
  | _ => some state

/-- The entries of an order's items are set one by one. -/
theorem merge_items (items : List (String × UInt32)) (state : OrderState) :
    (items.map fun (item, count) => (1, proto.Value.Bytes (proto.encode (pair_fields item count)))).foldlM
        of_order state =
      some { state with
        items := items.foldl (fun items entry => items.insert entry.1 entry.2) state.items } := by
  induction items generalizing state with
  | nil => rfl
  | cons entry rest ih =>
    obtain ⟨item, count⟩ := entry
    have hone : of_order state (1, .Bytes (proto.encode (pair_fields item count))) =
        some { state with items := state.items.insert item count } := by
      simp only [of_order, merge_pair, Except.toOption, Option.map_some]
    rw [List.map_cons, List.foldlM_cons, hone, Option.bind_eq_bind, Option.bind_some]
    exact ih _

/-- Its deliveries are read back in order. -/
theorem merge_delivered (delivered : List String) (state : OrderState) :
    (delivered.map fun item => (2, proto.Value.Bytes (proto.utf8 item))).foldlM of_order state =
      some { state with delivered := state.delivered ++ delivered } := by
  induction delivered generalizing state with
  | nil =>
    rw [List.append_nil]
    rfl
  | cons item rest ih =>
    have hone : of_order state (2, .Bytes (proto.utf8 item)) =
        some { state with delivered := state.delivered ++ [item] } := by
      simp only [of_order, proto.read_utf8_self, Option.map_some]
    rw [List.map_cons, List.foldlM_cons, hone, Option.bind_eq_bind, Option.bind_some, ih,
      List.append_assoc, List.singleton_append]

/-- Its notes are read back where nothing was read there before. -/
theorem merge_notes (notes : String) (state : OrderState) (hfresh : state.notes = "") :
    (proto.string 3 notes).foldlM of_order state = some { state with notes } := by
  unfold proto.string
  split
  · rename_i hempty
    rw [hempty, ← hfresh]
    rfl
  · simp [of_order, proto.read_utf8_self]

scoped instance : Message OrderState where
  encode_to_vec state := proto.encode (order_fields state)
  decode := proto.merge default of_order
  decode_encode_to_vec state := by
    refine proto.merge_encode ?_
    obtain ⟨items, delivered, notes⟩ := state
    have hitems : items.toList.foldl (fun items entry => items.insert entry.1 entry.2) ∅ = items := by
      rw [← Std.ExtTreeMap.ofList_eq_foldl]
      exact text.ofList_toList items
    rw [order_fields, List.foldlM_append, List.foldlM_append, merge_items]
    dsimp only
    rw [show (default : OrderState).items = ∅ from rfl, hitems, Option.bind_eq_bind, Option.bind_some,
      merge_delivered]
    exact merge_notes notes _ rfl

end wire

end angzarr_router_conformance
