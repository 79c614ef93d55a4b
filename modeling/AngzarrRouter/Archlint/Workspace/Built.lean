import AngzarrRouter.Archlint.Workspace
import AngzarrRouter.Archlint.Scan.Scanned

open calls calls.MutCall
open text archlint.model archlint.scan archlint.syntax

namespace archlint.workspace

/-- The names Cargo lets a workspace use: no package, library, target kind or
dependency has a name with a path separator in it. -/
structure CargoNames (metadata : Metadata) : Prop where
  package : ∀ p ∈ metadata.packages, CrateName p.name
  library : ∀ p ∈ metadata.packages, ∀ t ∈ p.targets, t.is_lib = true → CrateName t.name
  kind : ∀ p ∈ metadata.packages, ∀ t ∈ p.targets, ∀ kind ∈ t.kind, ':' ∉ kind.toList
  dependency : ∀ p ∈ metadata.packages, ∀ dep ∈ p.dependencies, CrateName (dep.rename.getD dep.name)

/-- The library names of a workspace. -/
def Metadata.Lib (metadata : Metadata) (lib : String) : Prop :=
  ∃ p ∈ metadata.packages, p.lib_name = lib

instance (metadata : Metadata) (lib : String) : Decidable (metadata.Lib lib) :=
  inferInstanceAs (Decidable (∃ p ∈ metadata.packages, p.lib_name = lib))

/-- The edge a manifest declares for a dependency. -/
def manifest_edge (scanner : Scanner) (package : Package) (dep : Dependency) : Edge :=
  { from_module := package.lib_name, to_target := dep.code_name, scope := dep.scope
    file := scanner.relative package.manifest_path, line := 0, via := dep.via }

/-- A name keeps to a crate's characters where `-` becomes `_`. -/
theorem crateName_replace {name : String} (hname : CrateName name) :
    CrateName (replace '-' '_' name) := by
  intro hcolon
  rw [replace, String.toList_ofList, List.mem_map] at hcolon
  obtain ⟨c, hc, hreplaced⟩ := hcolon
  split at hreplaced
  · exact absurd hreplaced (by decide)
  · exact hname (hreplaced ▸ hc)

namespace CargoNames

variable {metadata : Metadata} (hnames : CargoNames metadata) {p : Package}
  (hp : p ∈ metadata.packages)

include hnames hp

theorem lib_name : CrateName p.lib_name := by
  unfold Package.lib_name
  cases hfound : p.targets.find? Target.is_lib with
  | some t => exact hnames.library p hp t (List.mem_of_find?_eq_some hfound) (List.find?_some hfound)
  | none => exact crateName_replace (hnames.package p hp)

theorem code_name {dep : Dependency} (hdep : dep ∈ p.dependencies) : CrateName dep.code_name :=
  crateName_replace (hnames.dependency p hp dep hdep)

/-- A target's root lies in its package's crate. -/
theorem root_module {t : Target} (ht : t ∈ p.targets) :
    InCrate p.lib_name (t.root_module p.lib_name) := by
  unfold Target.root_module
  split
  · exact .root
  refine .below (Begins.append ?_ t.name)
  have hkind : ∀ kind : String, ':' ∉ kind.toList → Begins (kind ++ "#") := by
    intro kind hcolon
    cases hletters : kind.toList with
    | nil => exact ⟨'#', [], by simp [hletters], by decide⟩
    | cons c rest =>
      refine ⟨c, rest ++ ['#'], by simp [hletters], fun hc => hcolon ?_⟩
      rw [hletters, hc]
      exact List.mem_cons_self ..
  apply hkind
  cases hhead : t.kind.head? with
  | none => decide
  | some kind =>
    dsimp only
    split
    · decide
    · exact hnames.kind p hp t ht kind (List.mem_of_head? hhead)

end CargoNames

theorem CargoNames.libs {metadata : Metadata} (hnames : CargoNames metadata) :
    ∀ lib, metadata.Lib lib → CrateName lib := by
  rintro lib ⟨p, hp, rfl⟩
  exact hnames.lib_name hp

section

variable {metadata : Metadata} {scanner before after : Scanner}

/-- The crates of a workspace are its packages' libraries. -/
theorem mem_add_workspace_crates (packages : List Package) (scanner : Scanner) (lib : String) :
    lib ∈ (packages.foldl (fun scanner package => scanner.add_workspace_crate package.lib_name)
      scanner).workspace_crates ↔
      lib ∈ scanner.workspace_crates ∨ ∃ p ∈ packages, p.lib_name = lib := by
  induction packages generalizing scanner with
  | nil => simp
  | cons p packages ih =>
    rw [List.foldl_cons, ih]
    simp only [Scanner.add_workspace_crate, Std.ExtTreeSet.mem_insert,
      Std.LawfulEqOrd.compare_eq_iff_eq, List.mem_cons, exists_eq_or_imp]
    tauto

end

section

variable [Alphanumeric] {sources : Sources} {stack : Nat} {metadata : Metadata}
  {scanner after : Scanner}

/-- What a scan finds is the model, once it is finished. -/
theorem build_model_of_scan_workspace (hscan : scan_workspace sources stack metadata = .ok scanner) :
    build_model sources stack metadata = .ok scanner.finish := by
  rw [build_model, hscan, Outcome.map_ok]

end

end archlint.workspace
