import Mathlib.Data.List.Induction
import Mathlib.Tactic.Common

namespace text

variable {V : Type} {front : String} {m kept kept' : Std.ExtTreeMap String V}
  {left right : List (String × V)} {name : String}

/-- A list's last entry under a name is the one a map keeps. -/
theorem ofList_concat (left : List (String × V)) (name : String) (value : V) :
    (.ofList (left ++ [(name, value)]) : Std.ExtTreeMap String V) =
      (Std.ExtTreeMap.ofList left).insert name value := by
  rw [Std.ExtTreeMap.ofList_eq_foldl, Std.ExtTreeMap.ofList_eq_foldl, List.foldl_append]
  rfl

/-- A map is its entries. -/
theorem ofList_toList (m : Std.ExtTreeMap String V) : .ofList m.toList = m := by
  refine Std.ExtTreeMap.ext_getElem? fun name => ?_
  cases hvalue : m[name]? with
  | none =>
    refine Std.ExtTreeMap.getElem?_ofList_of_contains_eq_false ?_
    rw [Std.ExtTreeMap.map_fst_toList_eq_keys]
    simpa using hvalue
  | some value =>
    exact Std.ExtTreeMap.getElem?_ofList_of_mem (by simp) Std.ExtTreeMap.distinct_keys_toList
      (Std.ExtTreeMap.mem_toList_iff_getElem?_eq_some.mpr hvalue)

/-- Entries under other names leave a name's value. -/
theorem getElem?_ofList_append_left (hright : name ∉ right.map Prod.fst) :
    (.ofList (left ++ right) : Std.ExtTreeMap String V)[name]? =
      (.ofList left : Std.ExtTreeMap String V)[name]? := by
  induction right using List.reverseRecOn with
  | nil => rw [List.append_nil]
  | append_singleton right entry ih =>
    obtain ⟨key, value⟩ := entry
    simp only [List.map_append, List.map_cons, List.map_nil, List.mem_append,
      List.mem_singleton, not_or] at hright
    rw [← List.append_assoc, ofList_concat, Std.ExtTreeMap.getElem?_insert, if_neg, ih hright.1]
    exact fun heq => hright.2 (Std.LawfulEqCmp.eq_of_compare heq).symm

/-- Lists that differ in one entry's value make maps that differ there at most. -/
theorem getElem?_ofList_entry (left right : List (String × V)) (name : String) (value value' : V)
    (key : String) :
    (.ofList (left ++ (name, value) :: right) : Std.ExtTreeMap String V)[key]? =
        (.ofList (left ++ (name, value') :: right) : Std.ExtTreeMap String V)[key]? ∨
      key = name ∧
        (.ofList (left ++ (name, value) :: right) : Std.ExtTreeMap String V)[key]? = some value ∧
        (.ofList (left ++ (name, value') :: right) : Std.ExtTreeMap String V)[key]? = some value' := by
  induction right using List.reverseRecOn with
  | nil =>
    rw [ofList_concat, ofList_concat, Std.ExtTreeMap.getElem?_insert, Std.ExtTreeMap.getElem?_insert]
    by_cases hkey : compare name key = .eq
    · rw [if_pos hkey, if_pos hkey]
      exact .inr ⟨(Std.LawfulEqCmp.eq_of_compare hkey).symm, rfl, rfl⟩
    · rw [if_neg hkey, if_neg hkey]
      exact .inl rfl
  | append_singleton right entry ih =>
    obtain ⟨other, last⟩ := entry
    rw [← List.cons_append, ← List.cons_append, ← List.append_assoc, ← List.append_assoc,
      ofList_concat, ofList_concat, Std.ExtTreeMap.getElem?_insert, Std.ExtTreeMap.getElem?_insert]
    by_cases hkey : compare other key = .eq
    · rw [if_pos hkey, if_pos hkey]
      exact .inl rfl
    · rw [if_neg hkey, if_neg hkey]
      exact ih

/-- `m` has the entries of `kept` under `front`, and no other name that
begins so. -/
def KeepsUnder (front : String) (m kept : Std.ExtTreeMap String V) : Prop :=
  ∀ name, m[front ++ name]? = kept[name]?

/-- What a map keeps under `front` is read off it. -/
theorem KeepsUnder.unique (h : KeepsUnder front m kept) (h' : KeepsUnder front m kept') :
    kept = kept' :=
  Std.ExtTreeMap.ext_getElem? fun name => (h name).symm.trans (h' name)

/-- Entries written under `front` are kept there, after any others that do
not begin so. -/
theorem keeps_under_ofList (left right : List (String × V))
    (hleft : ∀ name, front ++ name ∉ left.map Prod.fst) :
    KeepsUnder front (.ofList (left ++ right.map fun (name, value) => (front ++ name, value)))
      (.ofList right) := by
  intro name
  induction right using List.reverseRecOn with
  | nil =>
    rw [List.map_nil, List.append_nil, Std.ExtTreeMap.ofList_nil,
      Std.ExtTreeMap.getElem?_empty]
    exact Std.ExtTreeMap.getElem?_ofList_of_contains_eq_false (by simpa using hleft name)
  | append_singleton right entry ih =>
    obtain ⟨key, value⟩ := entry
    rw [List.map_append, List.map_cons, List.map_nil, ← List.append_assoc, ofList_concat,
      ofList_concat, Std.ExtTreeMap.getElem?_insert, Std.ExtTreeMap.getElem?_insert, ih]
    have hsame : compare (front ++ key) (front ++ name) = .eq ↔ compare key name = .eq := by
      simp only [Std.LawfulEqCmp.compare_eq_iff_eq]
      exact ⟨fun heq => String.append_right_inj front |>.mp heq, fun heq => by rw [heq]⟩
    simp only [hsame]

end text
