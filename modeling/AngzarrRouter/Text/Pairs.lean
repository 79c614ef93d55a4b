import Mathlib.Data.List.TakeDrop
import Mathlib.Data.List.TakeWhile
import Mathlib.Tactic.Common

namespace text

/-- `char::is_whitespace`: Unicode's `White_Space`. -/
def is_whitespace (c : Char) : Bool :=
  let n := c.toNat
  (0x9 ≤ n && n ≤ 0xd) || n == 0x20 || n == 0x85 || n == 0xa0 || n == 0x1680 ||
    (0x2000 ≤ n && n ≤ 0x200a) || n == 0x2028 || n == 0x2029 || n == 0x202f || n == 0x205f ||
    n == 0x3000

/-- `"` and `\` behind a backslash, every other letter as it is. -/
def escape (value : List Char) : List Char :=
  value.flatMap fun c => if c = '"' || c = '\\' then ['\\', c] else [c]

/-- A pair in front of what is read after it. -/
def followed_by (name value : List Char) (rest : Option (List (String × String))) :
    Option (List (String × String)) :=
  rest.map fun pairs => (.ofList name, .ofList value) :: pairs

mutual

/-- Reads ` name=value` pairs, a value in double quotes where it begins with
one, and else up to the next space. -/
def read_pairs : List Char → Option (List (String × String))
  | [] => some []
  | ' ' :: rest => read_name [] rest
  | _ :: _ => none
termination_by structural text => text

def read_name (name : List Char) : List Char → Option (List (String × String))
  | [] => none
  | '=' :: rest => read_value name rest
  | c :: rest => read_name (name ++ [c]) rest
termination_by structural text => text

def read_value (name : List Char) : List Char → Option (List (String × String))
  | [] => none
  | '"' :: rest => read_quoted name [] rest
  | c :: rest => read_bare name [c] rest
termination_by structural text => text

def read_quoted (name value : List Char) : List Char → Option (List (String × String))
  | [] => none
  | '"' :: rest => followed_by name value (read_pairs rest)
  | '\\' :: rest => read_escaped name value rest
  | c :: rest => read_quoted name (value ++ [c]) rest
termination_by structural text => text

def read_escaped (name value : List Char) : List Char → Option (List (String × String))
  | [] => none
  | c :: rest => read_quoted name (value ++ [c]) rest
termination_by structural text => text

def read_bare (name value : List Char) : List Char → Option (List (String × String))
  | [] => followed_by name value (some [])
  | ' ' :: rest => followed_by name value (read_name [] rest)
  | c :: rest => read_bare name (value ++ [c]) rest
termination_by structural text => text

end

/-- Reads a word and the pairs that follow it. -/
def read_word_and_pairs (text : String) : Option (String × List (String × String)) :=
  let (word, rest) := text.toList.span (· ≠ ' ')
  (read_pairs rest).map fun pairs => (.ofList word, pairs)

variable {name value word : List Char}

theorem read_name_append (front rest : List Char) (hname : '=' ∉ name) :
    read_name front (name ++ '=' :: rest) = read_value (front ++ name) rest := by
  induction name generalizing front with
  | nil => simp [read_name]
  | cons c name ih =>
    obtain ⟨hc, hname⟩ := List.ne_and_not_mem_of_not_mem_cons hname
    rw [List.cons_append, read_name]
    · rw [ih _ hname, List.append_assoc, List.singleton_append]
    · exact fun h => hc h.symm

/-- A quoted value is read up to its own closing quote, whatever it holds. -/
theorem read_quoted_escape (front rest : List Char) :
    read_quoted name front (escape value ++ '"' :: rest) =
      followed_by name (front ++ value) (read_pairs rest) := by
  induction value generalizing front with
  | nil => simp [escape, read_quoted]
  | cons c value ih =>
    have hvalue := ih (front ++ [c])
    rw [List.append_assoc, List.singleton_append] at hvalue
    rw [← hvalue, escape, List.flatMap_cons]
    by_cases hescaped : (c = '"' || c = '\\') = true
    · rw [if_pos hescaped, List.append_assoc, List.cons_append, List.cons_append, List.nil_append,
        read_quoted, read_escaped]
      rfl
    · obtain ⟨hquote, hbackslash⟩ : c ≠ '"' ∧ c ≠ '\\' := by simpa using hescaped
      rw [if_neg hescaped, List.append_assoc, List.cons_append, List.nil_append, read_quoted]
      · rfl
      · exact hquote
      · exact hbackslash

/-- A bare value is read up to the space before the next pair, or to the end. -/
theorem read_bare_append (front : List Char) {rest : List Char} (hvalue : ' ' ∉ value)
    (hrest : rest = [] ∨ rest.head? = some ' ') :
    read_bare name front (value ++ rest) = followed_by name (front ++ value) (read_pairs rest) := by
  induction value generalizing front with
  | nil =>
    rw [List.nil_append, List.append_nil]
    obtain rfl | hhead := hrest
    · rfl
    · obtain ⟨rest, rfl⟩ := List.head?_eq_some_iff.mp hhead
      rfl
  | cons c value ih =>
    obtain ⟨hc, hvalue⟩ := List.ne_and_not_mem_of_not_mem_cons hvalue
    rw [List.cons_append, read_bare]
    · rw [ih _ hvalue, List.append_assoc, List.singleton_append]
    · exact fun h => hc h.symm

/-- A word without a space is read back, and then the pairs written after it. -/
theorem read_word_append {pairs : List (String × String)} {rest : List Char} (hword : ' ' ∉ word)
    (hrest : rest = [] ∨ rest.head? = some ' ') (hpairs : read_pairs rest = some pairs) :
    read_word_and_pairs (.ofList (word ++ rest)) = some (.ofList word, pairs) := by
  have hkept : ∀ c ∈ word, decide (c ≠ ' ') = true :=
    fun c hc => decide_eq_true fun heq => hword (heq ▸ hc)
  have hstop : rest.takeWhile (fun c => decide (c ≠ ' ')) = [] ∧
      rest.dropWhile (fun c => decide (c ≠ ' ')) = rest := by
    obtain rfl | hhead := hrest
    · exact ⟨rfl, rfl⟩
    · obtain ⟨rest, rfl⟩ := List.head?_eq_some_iff.mp hhead
      exact ⟨rfl, rfl⟩
  rw [read_word_and_pairs, String.toList_ofList, List.span_eq_takeWhile_dropWhile,
    List.takeWhile_append_of_pos hkept, List.dropWhile_append_of_pos hkept, hstop.1, hstop.2,
    List.append_nil]
  change (read_pairs rest).map _ = _
  rw [hpairs]
  rfl

end text
