import AngzarrRouter.Archlint.Scan.Resolve
import Mathlib.Data.List.Perm.Basic

open text archlint.model archlint.syntax

namespace text

section

variable {α : Type}

/-- An order is that of whatever it compares its values by. -/
theorem transOrd_of_eq [Ord α] {cmp : α → α → Ordering} [Std.TransCmp cmp]
    (hcompare : ∀ a b : α, compare a b = cmp a b) : Std.TransOrd α := by
  obtain rfl : compare = cmp := funext₂ hcompare
  infer_instance

theorem eq_of_compare [Ord α] [Std.LawfulEqOrd α] {a b : α} (heq : compare a b = .eq) : a = b :=
  Std.LawfulEqOrd.eq_of_compare heq

/-- Values in order, each once. -/
def Ascending [Ord α] (items : List α) : Prop := items.Pairwise fun a b => compare a b = .lt

theorem lt_of_isLE_of_ne [Ord α] [Std.LawfulEqOrd α] {a b : α} (hle : (compare a b).isLE = true) (hne : a ≠ b) :
    compare a b = .lt := by
  cases hcompare : compare a b with
  | lt => rfl
  | eq => exact absurd (eq_of_compare hcompare) hne
  | gt => rw [hcompare] at hle; cases hle

variable [Ord α] [Std.TransOrd α] [Std.LawfulEqOrd α] {a : α} {items more kept rest : List α}

/-- What ascends has nothing twice. -/
theorem Ascending.nodup {α : Type} [Ord α] [Std.ReflOrd α] {items : List α} (hitems : Ascending items) : items.Nodup := by
  refine hitems.imp fun hlt => ?_
  rintro rfl
  rw [Std.ReflOrd.compare_self] at hlt
  cases hlt

/-- Two ascending lists of the same values are one. -/
theorem Ascending.eq_of_mem_iff (hitems : Ascending items) (hmore : Ascending more)
    (hmem : ∀ a, a ∈ items ↔ a ∈ more) : items = more := by
  have hperm := (List.perm_ext_iff_of_nodup hitems.nodup hmore.nodup).mpr hmem
  refine hperm.eq_of_pairwise (fun a b _ _ hab hba => ?_) hitems hmore
  rw [Std.OrientedOrd.eq_swap, hba] at hab
  cases hab

/-- In a list in order, equal values stand together, and are each kept once. -/
theorem ascending_eraseReps_loop [BEq α] [LawfulBEq α]
    (hrest : (a :: rest).Pairwise fun a b => (compare a b).isLE = true)
    (hkept : Ascending (kept.reverse ++ [a])) :
    Ascending (List.eraseRepsBy.loop (· == ·) a rest kept) := by
  induction rest generalizing a kept with
  | nil =>
    rw [List.eraseRepsBy.loop, List.reverse_cons]
    exact hkept
  | cons b rest ih =>
    obtain ⟨hfirst, hlater⟩ := List.pairwise_cons.mp hrest
    rw [List.eraseRepsBy.loop]
    split
    · rename_i hsame
      obtain rfl : a = b := by simpa using hsame
      exact ih hlater hkept
    · rename_i hother
      have hne : a ≠ b := by simpa using hother
      have hlt := lt_of_isLE_of_ne (hfirst b (List.mem_cons_self ..)) hne
      have hbefore := (List.pairwise_append.mp hkept).2.2
      refine ih hlater ?_
      rw [List.reverse_cons]
      refine List.pairwise_append.mpr ⟨hkept, List.pairwise_singleton _ _, fun c hc d hd => ?_⟩
      obtain rfl := List.mem_singleton.mp hd
      obtain hc | hc := List.mem_append.mp hc
      · exact Std.TransCmp.lt_trans (hbefore c hc a (List.mem_singleton_self _)) hlt
      · rw [List.mem_singleton.mp hc]
        exact hlt

/-- What is sorted and has no repetitions ascends. -/
theorem ascending_sorted [BEq α] [LawfulBEq α] (items : List α) :
    Ascending (items.mergeSort fun a b => (compare a b).isLE).eraseReps := by
  have htrans : ∀ a b c : α, (compare a b).isLE → (compare b c).isLE → (compare a c).isLE :=
    fun _ _ _ => Std.TransOrd.isLE_trans
  have htotal : ∀ a b : α, (compare a b).isLE || (compare b a).isLE := by
    intro a b
    rw [Std.OrientedOrd.eq_swap (a := b)]
    cases compare a b <;> rfl
  have hsorted := List.pairwise_mergeSort htrans htotal items
  cases hlist : items.mergeSort fun a b => (compare a b).isLE with
  | nil => exact .nil
  | cons a rest =>
    rw [hlist] at hsorted
    exact ascending_eraseReps_loop hsorted (List.pairwise_singleton _ _)

end

/-- Components compare by their kind, and then by their name. -/
def Component.key : Component → Nat × String
  | .RootDir => (0, "")
  | .CurDir => (1, "")
  | .ParentDir => (2, "")
  | .Normal name => (3, name)

theorem Component.compare_eq (a b : Component) :
    compare a b = compareLex (compareOn fun c => c.key.1) (compareOn fun c => c.key.2) a b := by
  cases a <;> cases b
  case Normal.Normal a b => exact Ordering.then_eq
  all_goals rfl

instance : Std.TransOrd Component := transOrd_of_eq Component.compare_eq

instance : Std.LawfulEqOrd Component where
  compare_self {a} := Std.ReflCmp.compare_self
  eq_of_compare {a b} heq := by
    rw [Component.compare_eq] at heq
    obtain ⟨hkind, hname⟩ := Ordering.then_eq_eq.mp heq
    have hkind := eq_of_compare hkind
    have hname := eq_of_compare hname
    cases a <;> cases b <;> simp_all [Component.key]

theorem PathBuf.compare_eq (a b : PathBuf) : compare a b = compareOn PathBuf.components a b :=
  Ordering.then_eq

instance : Std.TransOrd PathBuf := transOrd_of_eq PathBuf.compare_eq

instance : Std.LawfulEqOrd PathBuf where
  compare_self {a} := Std.ReflCmp.compare_self
  eq_of_compare {a b} heq := by
    rw [PathBuf.compare_eq] at heq
    obtain ⟨a⟩ := a
    obtain ⟨b⟩ := b
    exact congrArg _ (eq_of_compare heq)

end text

namespace archlint.model

theorem Scope.compare_eq (a b : Scope) : compare a b = compareOn Scope.ctorIdx a b := rfl

instance : Std.TransOrd Scope := transOrd_of_eq Scope.compare_eq

instance : Std.LawfulEqOrd Scope where
  compare_self {a} := Std.ReflCmp.compare_self
  eq_of_compare {a b} heq := by
    cases a <;> cases b
    · rfl
    · cases heq
    · cases heq
    · rfl

/-- Edges compare by their fields, in order. -/
theorem Edge.compare_eq (a b : Edge) : compare a b =
    compareLex (compareOn Edge.from_module) (compareLex (compareOn Edge.to_target)
      (compareLex (compareOn Edge.scope) (compareLex (compareOn Edge.file)
        (compareLex (compareOn Edge.line) (compareOn Edge.via))))) a b := by
  obtain ⟨from_module, to_target, scope, file, line, via⟩ := a
  obtain ⟨from_module', to_target', scope', file', line', via'⟩ := b
  change (compare from_module from_module').then ((compare to_target to_target').then
    ((compare scope scope').then ((compare file file').then ((compare line line').then
      ((compare via via').then .eq))))) = _
  rw [Ordering.then_eq]
  rfl

instance : Std.TransOrd Edge := transOrd_of_eq Edge.compare_eq

instance : Std.LawfulEqOrd Edge where
  compare_self {a} := Std.ReflCmp.compare_self
  eq_of_compare {a b} heq := by
    rw [Edge.compare_eq] at heq
    simp only [compareLex, compareOn, Ordering.then_eq_eq, Std.LawfulEqOrd.compare_eq_iff_eq] at heq
    obtain ⟨from_module, to_target, scope, file, line, via⟩ := a
    simp_all

end archlint.model

namespace archlint.scan

/-- The edges of a model are in order, each once. -/
theorem Scanner.ascending_edges (self : Scanner) : Ascending self.finish.1.edges :=
  ascending_sorted _

end archlint.scan
