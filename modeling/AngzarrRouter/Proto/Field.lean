import Mathlib.Tactic.Common

namespace proto

/-- Seven bits a byte, the lowest first, every byte but the last marked: as many
digits as there are, and at most one more than `digits`. -/
def varint_digits : Nat → Nat → List UInt8
  | 0, n => [UInt8.ofNat n]
  | digits + 1, n =>
    if n < 128 then [UInt8.ofNat n] else UInt8.ofNat (n % 128 + 128) :: varint_digits digits (n / 128)

/-- A base-128 varint. -/
def varint (n : Nat) : List UInt8 := varint_digits n n

/-- The varint that bytes start with, and the bytes after it. -/
def read_varint : List UInt8 → Option (Nat × List UInt8)
  | [] => none
  | byte :: rest =>
    if byte < 128 then some (byte.toNat, rest)
    else (read_varint rest).map fun (n, rest) => (byte.toNat - 128 + 128 * n, rest)

/-- A number's digits are read back, whatever follows them. -/
theorem read_varint_digits {digits n : Nat} (hn : n ≤ digits) (rest : List UInt8) :
    read_varint (varint_digits digits n ++ rest) = some (n, rest) := by
  have hlast : ∀ {n : Nat}, n < 128 → read_varint (UInt8.ofNat n :: rest) = some (n, rest) := by
    intro n hn
    have hbyte : (UInt8.ofNat n).toNat = n := UInt8.toNat_ofNat_of_lt' (Nat.lt_trans hn (by decide))
    have hlow : UInt8.ofNat n < 128 := by
      rw [UInt8.lt_iff_toNat_lt, hbyte]
      exact hn
    rw [read_varint, if_pos hlow, hbyte]
  induction digits generalizing n with
  | zero => exact hlast (by omega)
  | succ digits ih =>
    unfold varint_digits
    split
    · rename_i hsmall
      exact hlast hsmall
    · rename_i hlarge
      have hbyte : (UInt8.ofNat (n % 128 + 128)).toNat = n % 128 + 128 :=
        UInt8.toNat_ofNat_of_lt' (show n % 128 + 128 < 256 by omega)
      have hhigh : ¬ UInt8.ofNat (n % 128 + 128) < 128 := by
        rw [UInt8.lt_iff_toNat_lt, hbyte]
        simp
      have hrest : n / 128 ≤ digits := by omega
      rw [List.cons_append, read_varint, if_neg hhigh, ih hrest, hbyte, Option.map_some]
      have hdigits : n % 128 + 128 - 128 + 128 * (n / 128) = n := by omega
      exact congrArg (fun n => some (n, rest)) hdigits

/-- A varint reads back, whatever follows it. -/
theorem read_varint_append (n : Nat) (rest : List UInt8) :
    read_varint (varint n ++ rest) = some (n, rest) :=
  read_varint_digits (Nat.le_refl n) rest

/-- What a field holds, in the order of the wire types: a number, eight bytes,
some bytes, or four. Groups, which are read no more, are left out. -/
inductive Value where
  | Varint (n : Nat)
  | Fixed64 (bytes : Vector UInt8 8)
  | Bytes (bytes : List UInt8)
  | Fixed32 (bytes : Vector UInt8 4)
deriving DecidableEq, Repr

/-- The bytes of a fixed width that bytes start with, and the bytes after them. -/
def read_fixed (width : Nat) (bytes : List UInt8) : Option (Vector UInt8 width × List UInt8) :=
  if hwidth : width ≤ bytes.length then
    some (⟨(bytes.take width).toArray, by simp [hwidth]⟩, bytes.drop width)
  else none

/-- So are bytes of a fixed width. -/
theorem read_fixed_append {width : Nat} (bytes : Vector UInt8 width) (rest : List UInt8) :
    read_fixed width (bytes.toList ++ rest) = some (bytes, rest) := by
  have hlength : bytes.toList.length = width := bytes.length_toList
  have hwidth : width ≤ (bytes.toList ++ rest).length := by
    rw [List.length_append]
    omega
  have htake : (bytes.toList ++ rest).take width = bytes.toList := List.take_left' hlength
  have hdrop : (bytes.toList ++ rest).drop width = rest := List.drop_left' hlength
  simp only [read_fixed, dif_pos hwidth, htake, hdrop]
  rfl

/-- A field: its tag, which is its number and how its value is held, and its
value. -/
def encode_field : Nat × Value → List UInt8
  | (number, .Varint n) => varint (8 * number) ++ varint n
  | (number, .Fixed64 bytes) => varint (8 * number + 1) ++ bytes.toList
  | (number, .Bytes bytes) => varint (8 * number + 2) ++ varint bytes.length ++ bytes
  | (number, .Fixed32 bytes) => varint (8 * number + 5) ++ bytes.toList

/-- A message is its fields, in order. -/
def encode (fields : List (Nat × Value)) : List UInt8 := fields.flatMap encode_field

/-- The field that bytes start with, and the bytes after it. -/
def read_field (bytes : List UInt8) : Option ((Nat × Value) × List UInt8) :=
  (read_varint bytes).bind fun (tag, rest) =>
    match tag % 8 with
    | 0 => (read_varint rest).map fun (n, rest) => ((tag / 8, .Varint n), rest)
    | 1 => (read_fixed 8 rest).map fun (bytes, rest) => ((tag / 8, .Fixed64 bytes), rest)
    | 2 => (read_varint rest).bind fun (n, rest) =>
      if n ≤ rest.length then some ((tag / 8, .Bytes (rest.take n)), rest.drop n) else none
    | 5 => (read_fixed 4 rest).map fun (bytes, rest) => ((tag / 8, .Fixed32 bytes), rest)
    | _ => none

/-- The fields that bytes hold, `fuel` of them at most. -/
def read_fields : Nat → List UInt8 → Option (List (Nat × Value))
  | _, [] => some []
  | 0, _ :: _ => none
  | fuel + 1, byte :: bytes =>
    (read_field (byte :: bytes)).bind fun (field, rest) =>
      (read_fields fuel rest).map fun fields => field :: fields

def decode (bytes : List UInt8) : Option (List (Nat × Value)) := read_fields bytes.length bytes

/-- A number takes a byte at least. -/
theorem varint_ne_nil (n : Nat) : varint n ≠ [] := by
  unfold varint varint_digits
  split
  · nofun
  · split <;> nofun

/-- A field is read back, whatever follows it. -/
theorem read_field_append (field : Nat × Value) (rest : List UInt8) :
    read_field (encode_field field ++ rest) = some (field, rest) := by
  obtain ⟨number, value⟩ := field
  have htag : ∀ wire < 8, (8 * number + wire) % 8 = wire ∧ (8 * number + wire) / 8 = number := by
    intro wire hwire
    omega
  cases value with
  | Varint n =>
    obtain ⟨hwire, hnumber⟩ := htag 0 (by omega)
    simp only [Nat.add_zero] at hwire hnumber
    simp [read_field, encode_field, List.append_assoc, read_varint_append, hwire, hnumber]
  | Fixed64 bytes =>
    obtain ⟨hwire, hnumber⟩ := htag 1 (by omega)
    simp [read_field, encode_field, List.append_assoc, read_varint_append, read_fixed_append, hwire,
      hnumber]
  | Bytes bytes =>
    obtain ⟨hwire, hnumber⟩ := htag 2 (by omega)
    simp [read_field, encode_field, List.append_assoc, read_varint_append, hwire, hnumber]
  | Fixed32 bytes =>
    obtain ⟨hwire, hnumber⟩ := htag 5 (by omega)
    simp [read_field, encode_field, List.append_assoc, read_varint_append, read_fixed_append, hwire,
      hnumber]

/-- A field takes a byte at least. -/
theorem encode_field_ne_nil (field : Nat × Value) : encode_field field ≠ [] := by
  obtain ⟨number, value⟩ := field
  cases value <;> simp [encode_field, varint_ne_nil]

/-- Fields are read back one by one. -/
theorem read_fields_encode {fuel : Nat} {fields : List (Nat × Value)} (hfuel : fields.length ≤ fuel) :
    read_fields fuel (encode fields) = some fields := by
  induction fields generalizing fuel with
  | nil =>
    unfold read_fields
    rfl
  | cons field fields ih =>
    obtain ⟨fuel, rfl⟩ : ∃ less, fuel = less + 1 := ⟨fuel - 1, by simp at hfuel; omega⟩
    have hjoin : encode (field :: fields) = encode_field field ++ encode fields := List.flatMap_cons
    have hread := read_field_append field (encode fields)
    obtain ⟨byte, bytes, hbytes⟩ := List.exists_cons_of_ne_nil (encode_field_ne_nil field)
    rw [hjoin]
    rw [hbytes, List.cons_append] at hread ⊢
    rw [read_fields, hread, Option.bind_some]
    dsimp only
    rw [ih (Nat.le_of_succ_le_succ hfuel)]
    rfl

/-- A message reads back as its fields. -/
theorem decode_encode (fields : List (Nat × Value)) : decode (encode fields) = some fields := by
  refine read_fields_encode ?_
  induction fields with
  | nil => exact Nat.zero_le _
  | cons field fields ih =>
    have hjoin : encode (field :: fields) = encode_field field ++ encode fields := List.flatMap_cons
    have hsome := List.length_pos_iff.mpr (encode_field_ne_nil field)
    rw [hjoin, List.length_append, List.length_cons]
    omega

/-- A `uint32`: none for its default. -/
def uint32 (number : Nat) (n : UInt32) : List (Nat × Value) :=
  if n = 0 then [] else [(number, .Varint n.toNat)]

/-- The bytes of a text. -/
def utf8 (text : String) : List UInt8 := text.toByteArray.data.toList

/-- A `string`: none for its default. -/
def string (number : Nat) (text : String) : List (Nat × Value) :=
  if text = "" then [] else [(number, .Bytes (utf8 text))]

def read_utf8 (bytes : List UInt8) : Option String := String.fromUTF8? ⟨bytes.toArray⟩

/-- A text is read back. -/
theorem read_utf8_self (text : String) : read_utf8 (utf8 text) = some text := by
  have hback : String.fromUTF8? ⟨text.toByteArray.data⟩ = some text := dif_pos text.isValidUTF8
  simpa [read_utf8, utf8] using hback

/-- A message's fields taken in one after another, as a decoder merges them into
the message of no fields: `set` skips those the message has not. -/
def merge {M : Type} (message : M) (set : M → Nat × Value → Option M) (bytes : List UInt8) :
    Except String M :=
  match (decode bytes).bind fun fields => fields.foldlM set message with
  | some message => .ok message
  | none => .error "failed to decode Protobuf message"

/-- Merging an encoding sets its fields in order. -/
theorem merge_encode {M : Type} {message whole : M} {set : M → Nat × Value → Option M}
    {fields : List (Nat × Value)} (hfields : fields.foldlM set message = some whole) :
    merge message set (encode fields) = .ok whole := by
  rw [merge, decode_encode, Option.bind_some, hfields]

end proto
