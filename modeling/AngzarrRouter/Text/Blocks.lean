import Mathlib.Data.List.Forall2
import Mathlib.Tactic.Common

namespace text

variable {α β : Type} {takes : α → List β → Prop} {a : α} {pattern front : List α} {word : List β}

/-- A word cut into consecutive blocks, one for each place of a pattern, which
takes it. -/
def Cuts (takes : α → List β → Prop) (pattern : List α) (word : List β) : Prop :=
  ∃ blocks : List (List β), word = blocks.flatten ∧ List.Forall₂ takes pattern blocks

theorem cuts_nil_iff : Cuts takes [] word ↔ word = [] := by
  constructor
  · rintro ⟨blocks, rfl, hblocks⟩
    cases hblocks
    rfl
  · rintro rfl
    exact ⟨[], rfl, .nil⟩

/-- The first place takes a front of the word, and the others what is left. -/
theorem cuts_cons_iff : Cuts takes (a :: pattern) word ↔
    ∃ block back, word = block ++ back ∧ takes a block ∧ Cuts takes pattern back := by
  constructor
  · rintro ⟨blocks, rfl, hblocks⟩
    cases hblocks with
    | cons htakes hrest => exact ⟨_, _, rfl, htakes, _, rfl, hrest⟩
  · rintro ⟨block, back, rfl, htakes, blocks, rfl, hblocks⟩
    exact ⟨block :: blocks, rfl, .cons htakes hblocks⟩

/-- A place that takes any block leaves any end of the word to the others. -/
theorem cuts_cons_any (hany : ∀ block, takes a block) : Cuts takes (a :: pattern) word ↔
    ∃ i < word.length + 1, Cuts takes pattern (word.drop i) := by
  rw [cuts_cons_iff]
  constructor
  · rintro ⟨block, back, rfl, -, hback⟩
    refine ⟨block.length, by rw [List.length_append]; omega, ?_⟩
    rw [List.drop_left]
    exact hback
  · rintro ⟨i, -, hback⟩
    exact ⟨word.take i, word.drop i, (List.take_append_drop i word).symm, hany _, hback⟩

/-- A place that takes one letter takes the word's first. -/
theorem cuts_cons_one {one : β → Prop} (hone : ∀ block, takes a block ↔ ∃ b, block = [b] ∧ one b) :
    Cuts takes (a :: pattern) word ↔ ∃ b rest, word = b :: rest ∧ one b ∧ Cuts takes pattern rest := by
  rw [cuts_cons_iff]
  constructor
  · rintro ⟨block, back, rfl, htakes, hback⟩
    obtain ⟨b, rfl, hb⟩ := (hone block).mp htakes
    exact ⟨b, back, rfl, hb, hback⟩
  · rintro ⟨b, rest, rfl, hb, hrest⟩
    exact ⟨[b], rest, rfl, (hone [b]).mpr ⟨b, rfl, hb⟩, hrest⟩

/-- Places that each take their own letter take themselves, before what the
others take. -/
theorem cuts_append_self {takes : α → List α → Prop}
    (hself : ∀ a ∈ front, ∀ block, takes a block ↔ block = [a]) {word : List α} :
    Cuts takes (front ++ pattern) word ↔ ∃ back, word = front ++ back ∧ Cuts takes pattern back := by
  induction front generalizing word with
  | nil => simp
  | cons a front ih =>
    have hone : ∀ block, takes a block ↔ ∃ b, block = [b] ∧ b = a := by
      simpa using hself a List.mem_cons_self
    rw [List.cons_append, cuts_cons_one hone]
    constructor
    · rintro ⟨_, rest, rfl, rfl, hrest⟩
      obtain ⟨back, rfl, hback⟩ :=
        (ih fun a ha => hself a (List.mem_cons_of_mem _ ha)).mp hrest
      exact ⟨back, rfl, hback⟩
    · rintro ⟨back, rfl, hback⟩
      exact ⟨a, front ++ back, rfl, rfl,
        (ih fun a ha => hself a (List.mem_cons_of_mem _ ha)).mpr ⟨back, rfl, hback⟩⟩

theorem cuts_self {takes : α → List α → Prop}
    (hself : ∀ a ∈ front, ∀ block, takes a block ↔ block = [a]) {word : List α} :
    Cuts takes front word ↔ word = front := by
  have hcuts : Cuts takes (front ++ []) word ↔ _ := cuts_append_self hself
  simpa only [List.append_nil, cuts_nil_iff, exists_eq_right] using hcuts

end text
