import Mathlib.Data.List.DropRight
import Mathlib.Data.List.Infix
import Mathlib.Tactic.Common

namespace text

section

variable {α : Type} [DecidableEq α]

/-- The two sides of the first `sep` of a text. -/
def split_first (sep : List α) : List α → Option (List α × List α)
  | [] => none
  | c :: rest =>
    if sep <+: c :: rest then some ([], (c :: rest).drop sep.length)
    else (split_first sep rest).map fun (front, back) => (c :: front, back)

/-- The two sides of the last `sep` of a text. -/
def split_last (sep : List α) : List α → Option (List α × List α)
  | [] => none
  | c :: rest =>
    match split_last sep rest with
    | some (front, back) => some (c :: front, back)
    | none => if sep <+: c :: rest then some ([], (c :: rest).drop sep.length) else none

/-- The pieces of a text between its separators, which are found from the left
and do not overlap; the first `skip` letters end a separator already found. -/
def pieces_from (sep : List α) : Nat → List α → List (List α)
  | _, [] => [[]]
  | skip + 1, _ :: rest => pieces_from sep skip rest
  | 0, c :: rest =>
    if sep <+: c :: rest then [] :: pieces_from sep (sep.length - 1) rest
    else match pieces_from sep 0 rest with
      | [] => [[c]]
      | piece :: pieces => (c :: piece) :: pieces

/-- The pieces of a text between its separators. -/
def pieces (sep : List α) (letters : List α) : List (List α) := pieces_from sep 0 letters

theorem pieces_from_skip (sep : List α) (skip : Nat) (letters : List α) :
    pieces_from sep skip letters = pieces sep (letters.drop skip) := by
  induction letters generalizing skip with
  | nil => cases skip <;> rfl
  | cons c rest ih =>
    cases skip with
    | zero => rfl
    | succ skip => exact ih skip

variable {a : α} {front : List α}

/-- A text without the separator's first letter is one piece. -/
theorem pieces_of_not_mem (more : List α) (hfront : a ∉ front) : pieces (a :: more) front = [front] := by
  induction front with
  | nil => rfl
  | cons c rest ih =>
    obtain ⟨hne, hrest⟩ := List.ne_and_not_mem_of_not_mem_cons hfront
    have hapart : ¬ a :: more <+: c :: rest := fun hprefix => hne (List.cons_prefix_cons.mp hprefix).1
    rw [pieces, pieces_from, if_neg hapart, ← pieces, ih hrest]

/-- What stands before the first separator is the first piece. -/
theorem pieces_append (more back : List α) (hfront : a ∉ front) :
    pieces (a :: more) (front ++ (a :: more) ++ back) = front :: pieces (a :: more) back := by
  induction front with
  | nil =>
    rw [List.nil_append, List.cons_append, pieces, pieces_from, if_pos (by simp), pieces_from_skip]
    simp
  | cons c rest ih =>
    obtain ⟨hne, hrest⟩ := List.ne_and_not_mem_of_not_mem_cons hfront
    have hapart : ¬ a :: more <+: c :: (rest ++ (a :: more) ++ back) :=
      fun hprefix => hne (List.cons_prefix_cons.mp hprefix).1
    rw [List.cons_append, List.cons_append, pieces, pieces_from, if_neg hapart, ← pieces, ih hrest]

/-- The two sides of the first separator are the text again, with it between. -/
theorem split_first_eq_some {sep letters before after : List α}
    (hfirst : split_first sep letters = some (before, after)) :
    letters = before ++ sep ++ after := by
  induction letters generalizing before with
  | nil => cases hfirst
  | cons c rest ih =>
    rw [split_first] at hfirst
    split at hfirst
    · rename_i hprefix
      obtain ⟨rfl, rfl⟩ := by simpa using hfirst
      rw [List.nil_append]
      exact List.prefix_append_drop hprefix
    · obtain ⟨⟨front, back⟩, hrest, hsides⟩ := Option.map_eq_some_iff.mp hfirst
      obtain ⟨rfl, rfl⟩ := by simpa using hsides
      rw [ih hrest, List.cons_append, List.cons_append]

/-- A letter that separates does not stand in front of its first place. -/
theorem not_mem_of_split_first {letters before after : List α}
    (hfirst : split_first [a] letters = some (before, after)) : a ∉ before := by
  induction letters generalizing before with
  | nil => cases hfirst
  | cons c rest ih =>
    rw [split_first] at hfirst
    split at hfirst
    · obtain ⟨rfl, _⟩ := by simpa using hfirst
      exact List.not_mem_nil
    · rename_i hprefix
      obtain ⟨⟨front, back⟩, hrest, hsides⟩ := Option.map_eq_some_iff.mp hfirst
      obtain ⟨rfl, rfl⟩ := by simpa using hsides
      refine List.not_mem_cons_of_ne_of_not_mem ?_ (ih hrest)
      rintro rfl
      exact hprefix (List.cons_prefix_cons.mpr ⟨rfl, List.nil_prefix⟩)

/-- A text with no place to separate it does not have the letter. -/
theorem not_mem_of_split_first_eq_none {letters : List α} (hnone : split_first [a] letters = none) :
    a ∉ letters := by
  induction letters with
  | nil => exact List.not_mem_nil
  | cons c rest ih =>
    rw [split_first] at hnone
    split at hnone
    · cases hnone
    · rename_i hprefix
      refine List.not_mem_cons_of_ne_of_not_mem ?_ (ih (Option.map_eq_none_iff.mp hnone))
      rintro rfl
      exact hprefix (List.cons_prefix_cons.mpr ⟨rfl, List.nil_prefix⟩)

/-- The last separator of a text is the last one of what follows it, where
that has one. -/
theorem split_last_append (front : List α) {sep back before after : List α}
    (hlast : split_last sep back = some (before, after)) :
    split_last sep (front ++ back) = some (front ++ before, after) := by
  induction front with
  | nil => exact hlast
  | cons c rest ih => rw [List.cons_append, split_last, ih, List.cons_append]

/-- A text without the separator's first letter has no separator. -/
theorem split_last_of_not_mem (more : List α) {letters : List α} (hletters : a ∉ letters) :
    split_last (a :: more) letters = none := by
  induction letters with
  | nil => rfl
  | cons c rest ih =>
    obtain ⟨hne, hrest⟩ := List.ne_and_not_mem_of_not_mem_cons hletters
    have hapart : ¬ a :: more <+: c :: rest := fun hprefix => hne (List.cons_prefix_cons.mp hprefix).1
    rw [split_last, ih hrest]
    exact if_neg hapart

/-- The two sides of the last separator are the text again, with it between. -/
theorem split_last_eq_some {sep letters before after : List α}
    (hlast : split_last sep letters = some (before, after)) : letters = before ++ sep ++ after := by
  induction letters generalizing before with
  | nil => cases hlast
  | cons c rest ih =>
    rw [split_last] at hlast
    split at hlast
    · rename_i front back hrest
      obtain ⟨rfl, rfl⟩ := by simpa using hlast
      rw [ih hrest, List.cons_append, List.cons_append]
    · split at hlast
      · rename_i hprefix
        obtain ⟨rfl, rfl⟩ := by simpa using hlast
        rw [List.nil_append]
        exact (List.prefix_append_drop hprefix)
      · cases hlast

end

/-- The pieces with something in them, where letters that separate stand
between two texts, are those of each. -/
theorem filter_splitOnP_append {α : Type} {p : α → Bool} (front : List α) {gap back : List α}
    (hgap : ∀ c ∈ gap, p c = true) (hne : gap ≠ []) :
    ((front ++ gap ++ back).splitOnP p).filter (!·.isEmpty) =
      (front.splitOnP p).filter (!·.isEmpty) ++ (back.splitOnP p).filter (!·.isEmpty) := by
  induction gap generalizing front with
  | nil => exact absurd rfl hne
  | cons c gap ih =>
    have hjoin : front ++ c :: gap ++ back = front ++ c :: (gap ++ back) := by simp
    rw [hjoin, List.splitOnP_append_cons front (gap ++ back) (hgap c List.mem_cons_self),
      List.filter_append]
    cases gap with
    | nil => rfl
    | cons d gap =>
      have hrest := ih [] (fun e he => hgap e (List.mem_cons_of_mem _ he)) (List.cons_ne_nil d gap)
      rw [List.nil_append, List.splitOnP_nil] at hrest
      rw [hrest]
      rfl

/-- What follows the last letter that does not pass. -/
theorem rtakeWhile_append {α : Type} {p : α → Bool} (front : List α) {c : α} {back : List α}
    (hc : p c = false) (hback : ∀ x ∈ back, p x = true) :
    (front ++ c :: back).rtakeWhile p = back := by
  induction back using List.reverseRecOn with
  | nil => exact List.rtakeWhile_concat_neg _ _ _ (by rw [hc]; exact Bool.false_ne_true)
  | append_singleton back x ih =>
    have hjoin : front ++ c :: (back ++ [x]) = front ++ c :: back ++ [x] := by simp
    rw [hjoin, List.rtakeWhile_concat_pos _ _ _ (hback x (by simp)),
      ih fun y hy => hback y (List.mem_append_left _ hy)]

/-- `str::starts_with`. -/
def starts_with (start text : String) : Bool := decide (start.toList <+: text.toList)

theorem starts_with_iff {start text : String} :
    starts_with start text = true ↔ ∃ rest, text = start ++ rest := by
  rw [starts_with, decide_eq_true_eq]
  constructor
  · rintro ⟨back, hback⟩
    exact ⟨.ofList back, by rw [← String.toList_inj, String.toList_append, String.toList_ofList, hback]⟩
  · rintro ⟨rest, rfl⟩
    exact ⟨rest.toList, by rw [String.toList_append]⟩

/-- `str::strip_prefix`. -/
def strip_prefix (start text : String) : Option String :=
  if start.toList <+: text.toList then some (.ofList (text.toList.drop start.toList.length)) else none

theorem strip_prefix_eq_some_iff {start text rest : String} :
    strip_prefix start text = some rest ↔ text = start ++ rest := by
  rw [← String.toList_inj, String.toList_append, strip_prefix]
  split
  · rename_i hprefix
    obtain ⟨back, hback⟩ := hprefix
    rw [← hback, List.drop_left, Option.some.injEq, List.append_cancel_left_eq, ← String.toList_inj,
      String.toList_ofList]
  · rename_i hprefix
    refine ⟨nofun, fun heq => absurd ⟨rest.toList, heq.symm⟩ hprefix⟩

/-- `str::split`. -/
def split (sep text : String) : List String := (pieces sep.toList text.toList).map .ofList

/-- `str::split_once`. -/
def split_once (sep text : String) : Option (String × String) :=
  (split_first sep.toList text.toList).map fun (front, back) => (.ofList front, .ofList back)

/-- What follows a separator is shorter than the text. -/
theorem split_once_length {sep text front back : String} (hsep : sep ≠ "")
    (hsplit : split_once sep text = some (front, back)) :
    back.toList.length < text.toList.length := by
  obtain ⟨⟨before, after⟩, hfirst, hsides⟩ := Option.map_eq_some_iff.mp hsplit
  obtain ⟨rfl, rfl⟩ := by simpa using hsides
  have hletters := congrArg List.length (split_first_eq_some hfirst)
  have hpos : 0 < sep.toList.length := by
    refine List.length_pos_of_ne_nil fun hnil => hsep ?_
    rw [← String.toList_inj, hnil]
    rfl
  simp only [List.length_append] at hletters
  rw [String.toList_ofList]
  omega

/-- `str::rsplit_once`. -/
def rsplit_once (sep text : String) : Option (String × String) :=
  (split_last sep.toList text.toList).map fun (front, back) => (.ofList front, .ofList back)

/-- `str::replace` of one letter. -/
def replace (letter by_letter : Char) (text : String) : String :=
  .ofList (text.toList.map fun c => if c = letter then by_letter else c)

end text
