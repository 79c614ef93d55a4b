import AngzarrRouter.Calls.Outcome
import Mathlib.Algebra.GroupWithZero.Nat

open calls

namespace text

/-- `str::len`: a text's length in bytes. -/
def byte_len (text : List Char) : Nat := (text.map Char.utf8Size).sum

/-- `str::is_char_boundary`: a letter begins at byte `index`, or the text ends
there. -/
def is_char_boundary (index : Nat) : List Char → Bool
  | [] => index == 0
  | c :: rest =>
    index == 0 || (decide (c.utf8Size ≤ index) && is_char_boundary (index - c.utf8Size) rest)

/-- `&text[index..]`, of bytes: it unwinds past the end and within a letter. -/
def slice_from (index : Nat) : List Char → Outcome Empty (List Char)
  | [] => if index = 0 then .ok [] else .panic
  | c :: rest =>
    if index = 0 then .ok (c :: rest)
    else if c.utf8Size ≤ index then slice_from (index - c.utf8Size) rest
    else .panic

variable {α : Type}

/-- `Iterator::any`: up to the first item that passes, or that unwinds. -/
def any (passes : α → Outcome Empty Bool) : List α → Outcome Empty Bool
  | [] => .ok false
  | item :: rest => do
    let passed ← passes item
    if passed then .ok true else any passes rest

/-- Where no item unwinds, `any` is the one of plain predicates. -/
theorem any_eq_ok {passes : α → Outcome Empty Bool} {plain : α → Bool} {items : List α}
    (hpasses : ∀ item ∈ items, passes item = .ok (plain item)) :
    any passes items = .ok (items.any plain) := by
  induction items with
  | nil => rfl
  | cons item rest ih =>
    rw [any, hpasses item List.mem_cons_self, Outcome.ok_bind,
      ih fun other hother => hpasses other (List.mem_cons_of_mem _ hother), List.any_cons]
    cases plain item <;> rfl

variable {text : List Char}

theorem byte_len_append (front back : List Char) :
    byte_len (front ++ back) = byte_len front + byte_len back := by
  simp [byte_len]

/-- A letter begins, or the text ends, where a front of it ends. -/
theorem is_char_boundary_byte_len (front back : List Char) :
    is_char_boundary (byte_len front) (front ++ back) = true ∧
      slice_from (byte_len front) (front ++ back) = .ok back := by
  induction front with
  | nil => cases back <;> exact ⟨rfl, rfl⟩
  | cons c front ih =>
    have hlen : byte_len (c :: front) = c.utf8Size + byte_len front := by simp [byte_len]
    have hpos := c.utf8Size_pos
    rw [hlen, List.cons_append, is_char_boundary, slice_from, Nat.add_sub_cancel_left, ih.1, ih.2,
      if_neg (by omega), if_pos (by omega)]
    simp

/-- And nowhere else. -/
theorem exists_of_is_char_boundary {index : Nat} (h : is_char_boundary index text = true) :
    ∃ front back, text = front ++ back ∧ index = byte_len front := by
  induction text generalizing index with
  | nil => exact ⟨[], [], rfl, by simpa [is_char_boundary, byte_len] using h⟩
  | cons c rest ih =>
    rw [is_char_boundary, Bool.or_eq_true, Bool.and_eq_true, decide_eq_true_eq, beq_iff_eq] at h
    obtain rfl | ⟨hle, hrest⟩ := h
    · exact ⟨[], c :: rest, rfl, rfl⟩
    · obtain ⟨front, back, rfl, hindex⟩ := ih hrest
      refine ⟨c :: front, back, rfl, ?_⟩
      simp only [byte_len, List.map_cons, List.sum_cons] at hindex ⊢
      omega

/-- Trying the ends of a text at its letters' boundaries is trying all its
ends. -/
theorem any_slice_from (plain : List Char → Bool) {passes : List Char → Outcome Empty Bool}
    (hpasses : ∀ i, passes (text.drop i) = .ok (plain (text.drop i))) :
    any (fun index => slice_from index text >>= passes)
      ((List.range (byte_len text + 1)).filter (is_char_boundary · text)) =
      .ok ((List.range (text.length + 1)).any fun i => plain (text.drop i)) := by
  have hslice : ∀ index ∈ (List.range (byte_len text + 1)).filter (is_char_boundary · text),
      ∃ i < text.length + 1, (slice_from index text >>= passes) = .ok (plain (text.drop i)) := by
    intro index hindex
    obtain ⟨front, back, rfl, rfl⟩ := exists_of_is_char_boundary (List.mem_filter.mp hindex).2
    refine ⟨front.length, by rw [List.length_append]; omega, ?_⟩
    rw [← hpasses, List.drop_left, (is_char_boundary_byte_len front back).2, Outcome.ok_bind]
  have hplain : ∀ index ∈ (List.range (byte_len text + 1)).filter (is_char_boundary · text),
      (slice_from index text >>= passes) = .ok ((slice_from index text >>= passes) == .ok true) := by
    intro index hindex
    obtain ⟨i, -, hpassed⟩ := hslice index hindex
    rw [hpassed]
    cases plain (text.drop i) <;> rfl
  rw [any_eq_ok hplain]
  refine congrArg Outcome.ok (Bool.eq_iff_iff.mpr ?_)
  simp only [List.any_eq_true, beq_iff_eq]
  constructor
  · rintro ⟨index, hindex, hpassed⟩
    obtain ⟨i, hi, hplain⟩ := hslice index hindex
    exact ⟨i, List.mem_range.mpr hi, Outcome.ok.inj (hplain.symm.trans hpassed)⟩
  · rintro ⟨i, -, hplain⟩
    have hends := is_char_boundary_byte_len (text.take i) (text.drop i)
    have hlen := byte_len_append (text.take i) (text.drop i)
    rw [List.take_append_drop] at hends hlen
    refine ⟨byte_len (text.take i), ?_, ?_⟩
    · exact List.mem_filter.mpr ⟨List.mem_range.mpr (by omega), hends.1⟩
    · rw [hends.2, Outcome.ok_bind, hpasses, hplain]

end text
