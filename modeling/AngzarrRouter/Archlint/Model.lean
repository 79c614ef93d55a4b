import AngzarrRouter.Text.Paths
import Mathlib.Tactic.Common

open text

namespace archlint.model

/-- `BTreeMap<String, V>`. -/
abbrev BTreeMap (V : Type) : Type := Std.ExtTreeMap String V

/-- `BTreeSet<String>`. -/
abbrev BTreeSet : Type := Std.ExtTreeSet String

theorem exists_of_mem {V : Type} {map : BTreeMap V} {key : String} (hkey : key ∈ map) :
    ∃ value, map[key]? = some value :=
  ⟨map[key], Std.ExtTreeMap.getElem?_eq_some_getElem hkey⟩

theorem mem_of_getElem? {V : Type} {map : BTreeMap V} {key : String} {value : V}
    (hvalue : map[key]? = some value) : key ∈ map :=
  Std.ExtTreeMap.mem_iff_isSome_getElem?.mpr (by rw [hvalue, Option.isSome_some])

/-- Whether an edge is library code or test-only code. -/
inductive Scope where
  | Lib
  | Test
deriving DecidableEq, Ord, Repr

/-- A reference from a module to a workspace module, an external path or an
on-disk target (the source's `from` and `to`). -/
structure Edge where
  from_module : String
  to_target : String
  scope : Scope
  file : PathBuf
  line : Nat
  via : String
deriving DecidableEq, Ord, Repr

/-- Every module of every workspace target, and every edge from one. -/
structure Model where
  modules : BTreeMap PathBuf
  workspace_crates : BTreeSet
  edges : List Edge

/-- The crate a module path starts in: its first segment. -/
def head (target : String) : String := (split "::" target).headD ""

/-- Whether a target lies inside the workspace: in a workspace crate, or on
disk. -/
def Model.is_internal (self : Model) (target : String) : Bool :=
  starts_with "path:" target || self.workspace_crates.contains (head target)

end archlint.model
