import AngzarrRouter.Archlint.Scan.Ordered
import AngzarrRouter.Archlint.Scan.Written
import AngzarrRouter.Archlint.Workspace.Built

open calls calls.MutCall
open text archlint.model archlint.scan archlint.syntax

namespace archlint.workspace

/-- The edge a manifest declares to a directory outside the workspace. -/
def on_disk_edge (scanner : Scanner) (package : Package) (dep : Dependency) (path : PathBuf) : Edge :=
  { manifest_edge scanner package dep with to_target := "path:" ++ (scanner.relative path).display }

/-- Where a target's code is read from. -/
def Target.ctx (t : Target) (lib : String) : Ctx :=
  { module := t.root_module lib, file := t.src_path, child_dir := parent_dir t.src_path
    scope := t.scope }

/-- A package has a target of which no earlier one has the root. -/
def FirstOfRoot (lib : String) (targets : List Target) (t : Target) : Prop :=
  ∃ front back, targets = front ++ t :: back ∧
    ∀ other ∈ front, other.root_module lib ≠ t.root_module lib

/-- A list's first target is such a one, and a later one is if the first has
another root. -/
theorem firstOfRoot_cons {lib : String} {head t : Target} {targets : List Target} :
    FirstOfRoot lib (head :: targets) t ↔
      t = head ∨ head.root_module lib ≠ t.root_module lib ∧ FirstOfRoot lib targets t := by
  constructor
  · rintro ⟨front, back, hsplit, hfirst⟩
    cases front with
    | nil => exact .inl (List.cons.inj hsplit).1.symm
    | cons other front =>
      obtain ⟨rfl, rfl⟩ := List.cons.inj hsplit
      exact .inr ⟨hfirst _ (List.mem_cons_self ..), front, back, rfl, fun other hother =>
        hfirst other (List.mem_cons_of_mem _ hother)⟩
  · rintro (rfl | ⟨hother, front, back, rfl, hfirst⟩)
    · exact ⟨[], targets, rfl, fun _ hnone => absurd hnone List.not_mem_nil⟩
    · exact ⟨head :: front, back, rfl, List.forall_mem_cons.mpr ⟨hother, hfirst⟩⟩

/-- A target that a loop over a package's targets is yet to scan. -/
def Fresh (lib : String) (seen : BTreeSet) (targets : List Target) (t : Target) : Prop :=
  FirstOfRoot lib targets t ∧ t.root_module lib ∉ seen

section

variable {lib : String} {seen : BTreeSet} {head t : Target} {targets : List Target}

theorem fresh_nil : ¬ Fresh lib seen [] t := by simp [Fresh, FirstOfRoot]

theorem fresh_empty : Fresh lib ∅ targets t ↔ FirstOfRoot lib targets t := by simp [Fresh]

/-- A target whose root is seen already is passed over. -/
theorem fresh_cons_of_mem (hseen : head.root_module lib ∈ seen) :
    Fresh lib seen (head :: targets) t ↔ Fresh lib seen targets t := by
  rw [Fresh, firstOfRoot_cons]
  constructor
  · rintro ⟨rfl | ⟨_, hfirst⟩, hnew⟩
    · exact absurd hseen hnew
    · exact ⟨hfirst, hnew⟩
  · rintro ⟨hfirst, hnew⟩
    exact ⟨.inr ⟨fun heq => hnew (heq ▸ hseen), hfirst⟩, hnew⟩

/-- One whose root is not is scanned, and its root is seen from then on. -/
theorem fresh_cons_of_not_mem (hseen : head.root_module lib ∉ seen) :
    Fresh lib seen (head :: targets) t ↔
      t = head ∨ Fresh lib (seen.insert (head.root_module lib)) targets t := by
  simp only [Fresh, firstOfRoot_cons, Std.ExtTreeSet.mem_insert, Std.LawfulEqOrd.compare_eq_iff_eq,
    not_or]
  constructor
  · rintro ⟨rfl | ⟨hother, hfirst⟩, hnew⟩
    · exact .inl rfl
    · exact .inr ⟨hfirst, hother, hnew⟩
  · rintro (rfl | ⟨hfirst, hother, hnew⟩)
    · exact ⟨.inl rfl, hseen⟩
    · exact ⟨.inr ⟨hother, hfirst⟩, hnew⟩

end

/-- What a manifest declares of one of its dependencies. -/
inductive Declares (metadata : Metadata) (p : Package) (dep : Dependency) : Finding → Prop where
  | dependency : Declares metadata p dep (.Edge (manifest_edge (.new metadata.workspace_root) p dep))
  | on_disk {path : PathBuf} (hpath : dep.path = some path)
    (houtside : ∀ other ∈ metadata.packages, other.name ≠ dep.name) :
    Declares metadata p dep (.Edge (on_disk_edge (.new metadata.workspace_root) p dep path))

/-- What the sources and the manifests of a workspace have scanning find. -/
inductive WorkspaceWrites [Alphanumeric] (sources : Sources) (metadata : Metadata) :
    Finding → Prop where
  | target {p : Package} {t : Target} {finding : Finding} (hp : p ∈ metadata.packages)
    (hfirst : FirstOfRoot p.lib_name p.targets t)
    (hinside : FileWrites sources metadata.workspace_root (t.ctx p.lib_name) finding) :
    WorkspaceWrites sources metadata finding
  | manifest {p : Package} {dep : Dependency} {finding : Finding} (hp : p ∈ metadata.packages)
    (hdep : dep ∈ p.dependencies) (hdeclares : Declares metadata p dep finding) :
    WorkspaceWrites sources metadata finding

section

variable {metadata : Metadata} {scanner after : Scanner} {p : Package}

/-- A dependency is entered as its manifest declares it. -/
theorem finds_add_dependency (hroot : scanner.workspace_root = metadata.workspace_root)
    (dep : Dependency) :
    Finds scanner (add_dependency metadata p scanner dep) (Declares metadata p dep) := by
  have hdeclared := finds_push_edge scanner (manifest_edge scanner p dep)
  have hedge : manifest_edge scanner p dep = manifest_edge (.new metadata.workspace_root) p dep := by
    simp only [manifest_edge, Scanner.relative, hroot, Scanner.new]
  unfold add_dependency
  cases hpath : dep.path with
  | none =>
    refine hdeclared.congr fun finding => ⟨?_, fun hdeclares => ?_⟩
    · rintro rfl
      exact hedge ▸ .dependency
    · cases hdeclares with
      | dependency => rw [hedge]
      | on_disk hpath' _ => exact absurd (hpath'.symm.trans hpath) (Option.some_ne_none _)
  | some path =>
    dsimp only
    split
    · rename_i hinside
      obtain ⟨other, hother, hname⟩ := List.any_eq_true.mp hinside
      refine hdeclared.congr fun finding => ⟨?_, fun hdeclares => ?_⟩
      · rintro rfl
        exact hedge ▸ .dependency
      · cases hdeclares with
        | dependency => rw [hedge]
        | on_disk _ houtside => exact absurd (of_decide_eq_true hname) (houtside other hother)
    · rename_i houtside
      have hdisk := finds_push_edge (scanner.push_edge (manifest_edge scanner p dep))
        (on_disk_edge scanner p dep path)
      have hdisk_edge : on_disk_edge scanner p dep path =
          on_disk_edge (.new metadata.workspace_root) p dep path := by
        simp only [on_disk_edge, hedge, Scanner.relative, hroot, Scanner.new]
      refine (hdeclared.trans hdisk).congr fun finding => ⟨?_, fun hdeclares => ?_⟩
      · rintro (rfl | rfl)
        · exact hedge ▸ .dependency
        · exact hdisk_edge ▸ .on_disk hpath fun other hother hname =>
            houtside (List.any_eq_true.mpr ⟨other, hother, decide_eq_true hname⟩)
      · cases hdeclares with
        | dependency => exact .inl (by rw [hedge])
        | on_disk hpath' _ =>
          obtain rfl := Option.some.inj (hpath'.symm.trans hpath)
          exact .inr (by rw [hdisk_edge])

/-- The scanner that `build_model`'s loop over the packages starts with. -/
def starting (metadata : Metadata) : Scanner :=
  metadata.packages.foldl (fun scanner package => scanner.add_workspace_crate package.lib_name)
    (.new metadata.workspace_root)

/-- The loop starts with a new scanner that knows the workspace's crates. -/
theorem starting_eq (metadata : Metadata) : starting metadata =
    { Scanner.new metadata.workspace_root with
      workspace_crates := (starting metadata).workspace_crates } := by
  have hadded : ∀ (packages : List Package) (scanner : Scanner),
      packages.foldl (fun scanner package => scanner.add_workspace_crate package.lib_name) scanner =
        { scanner with workspace_crates := (packages.foldl (fun scanner package =>
            scanner.add_workspace_crate package.lib_name) scanner).workspace_crates } := by
    intro packages
    induction packages with
    | nil => exact fun scanner => rfl
    | cons p packages ih => exact fun scanner => ih (scanner.add_workspace_crate p.lib_name)
  exact hadded metadata.packages _

theorem starting_workspace_root (metadata : Metadata) :
    (starting metadata).workspace_root = metadata.workspace_root := by
  rw [starting_eq]
  rfl

/-- Those crates are the workspace's library names. -/
theorem mem_starting_iff {lib : String} :
    lib ∈ (starting metadata).workspace_crates ↔ metadata.Lib lib := by
  rw [starting, mem_add_workspace_crates]
  simp [Scanner.new, Metadata.Lib]

theorem not_has_starting (finding : Finding) : ¬ (starting metadata).Has finding := by
  rw [starting_eq]
  cases finding <;> simp [Scanner.Has, Scanner.new]

end

section

variable [Alphanumeric] {sources : Sources} {stack : Nat} {metadata : Metadata}
  {scanner after : Scanner} {p : Package}

/-- A target's scan finds what its root file has it find. -/
theorem finds_add_target (hroot : scanner.workspace_root = metadata.workspace_root) (t : Target)
    (lib : String) (known : BTreeSet)
    (hadd : scanner.add_target sources stack (t.root_module lib) t.src_path t.scope known =
      (after, .ok ())) :
    Finds scanner after (FileWrites sources metadata.workspace_root (t.ctx lib)) := by
  have hwalked : Finds { scanner with known := scanner.known.insert (t.root_module lib) known }
      after (FileWrites sources metadata.workspace_root (t.ctx lib)) :=
    finds_walk_file sources (t.root_module lib) metadata.workspace_root stack hroot hadd
  refine ⟨hwalked.workspace_root, hwalked.workspace_crates, fun finding => ?_⟩
  rw [hwalked.has]
  cases finding <;> rfl

/-- A package's targets are scanned but for those whose root is seen already. -/
theorem finds_add_targets (hroot : scanner.workspace_root = metadata.workspace_root)
    (seen : BTreeSet) (targets : List Target)
    (hadd : add_targets sources stack p scanner seen targets = (after, .ok ())) :
    Finds scanner after fun finding => ∃ t, Fresh p.lib_name seen targets t ∧
      FileWrites sources metadata.workspace_root (t.ctx p.lib_name) finding := by
  induction targets generalizing scanner seen with
  | nil =>
    obtain ⟨rfl, _⟩ := Prod.mk.inj hadd
    exact (Finds.refl _).congr fun finding => by simp [fresh_nil]
  | cons target targets ih =>
    unfold add_targets at hadd
    dsimp only at hadd
    split at hadd
    · rename_i hseen
      simp only [fresh_cons_of_mem (Std.ExtTreeSet.contains_iff_mem.mp hseen)]
      exact ih hroot seen hadd
    · rename_i hseen
      simp only [fresh_cons_of_not_mem (mt Std.ExtTreeSet.contains_iff_mem.mpr hseen)]
      obtain ⟨middle, ⟨⟩, htarget, hrest⟩ := andThen_eq_ok_iff.mp hadd
      have hadded := finds_add_target hroot target p.lib_name p.known htarget
      refine (hadded.trans (ih (hadded.workspace_root.trans hroot) _ hrest)).congr fun finding => ?_
      simp only [or_and_right, exists_or, exists_eq_left]

/-- What the sources and the manifest of one package have scanning find. -/
def PackageWrites (sources : Sources) (metadata : Metadata) (p : Package) (finding : Finding) :
    Prop :=
  (∃ t, FirstOfRoot p.lib_name p.targets t ∧
    FileWrites sources metadata.workspace_root (t.ctx p.lib_name) finding) ∨
  ∃ dep ∈ p.dependencies, Declares metadata p dep finding

/-- A package's scan finds what its targets and its manifest have it find. -/
theorem finds_scan_package (hroot : scanner.workspace_root = metadata.workspace_root)
    (hscan : scan_package sources stack metadata scanner p = (after, .ok ())) :
    Finds scanner after (PackageWrites sources metadata p) := by
  obtain ⟨middle, _, htargets, hdeps⟩ := andThen_eq_ok_iff.mp hscan
  obtain ⟨rfl, _⟩ := Prod.mk.inj hdeps
  have hadded := finds_add_targets hroot ∅ p.targets htargets
  have hdeclared := Finds.foldl (hadded.workspace_root.trans hroot)
    (fun scanner dep hroot => finds_add_dependency (p := p) hroot dep) p.dependencies
  refine (hadded.trans hdeclared).congr fun finding => or_congr_left (exists_congr fun t => ?_)
  rw [fresh_empty]

/-- The loop over the packages finds what each of them has it find. -/
theorem finds_packages (packages : List Package)
    (hroot : scanner.workspace_root = metadata.workspace_root)
    (hscan : for_each (scan_package sources stack metadata) scanner packages = (after, .ok ())) :
    Finds scanner after fun finding => ∃ p ∈ packages, PackageWrites sources metadata p finding := by
  induction packages generalizing scanner with
  | nil =>
    obtain ⟨rfl, _⟩ := Prod.mk.inj hscan
    exact (Finds.refl _).congr fun finding => by simp
  | cons p packages ih =>
    obtain ⟨middle, _, hfirst, hlater⟩ := andThen_eq_ok_iff.mp hscan
    have hscanned := finds_scan_package hroot hfirst
    have hrest := ih (hscanned.workspace_root.trans hroot) hlater
    refine (hscanned.trans hrest).congr fun finding => ?_
    rw [List.exists_mem_cons_iff]

/-- A workspace writes what its packages do. -/
theorem workspaceWrites_iff {finding : Finding} :
    WorkspaceWrites sources metadata finding ↔
      ∃ p ∈ metadata.packages, PackageWrites sources metadata p finding := by
  constructor
  · intro hwrites
    cases hwrites with
    | target hp hfirst hinside => exact ⟨_, hp, .inl ⟨_, hfirst, hinside⟩⟩
    | manifest hp hdep hdeclares => exact ⟨_, hp, .inr ⟨_, hdep, hdeclares⟩⟩
  · rintro ⟨p, hp, ⟨t, hfirst, hinside⟩ | ⟨dep, hdep, hdeclares⟩⟩
    · exact .target hp hfirst hinside
    · exact .manifest hp hdep hdeclares

/-- A scan ends well where its loop over the packages does. -/
theorem scan_workspace_eq_ok_iff : scan_workspace sources stack metadata = .ok scanner ↔
    for_each (scan_package sources stack metadata) (starting metadata) metadata.packages =
      (scanner, .ok ()) := by
  rw [scan_workspace, Outcome.map_eq_ok_iff]
  constructor
  · rintro ⟨⟨_, ⟨⟩⟩, howned, rfl⟩
    exact owned_eq_ok_iff.mp howned
  · exact fun hscan => ⟨(scanner, ()), owned_eq_ok_iff.mpr hscan, rfl⟩

/-- A scan of a workspace that ends well finds what the workspace writes. -/
theorem finds_scan_workspace (hscan : scan_workspace sources stack metadata = .ok scanner) :
    Finds (starting metadata) scanner (WorkspaceWrites sources metadata) := by
  have hpackages := finds_packages metadata.packages (starting_workspace_root metadata)
    (scan_workspace_eq_ok_iff.mp hscan)
  exact hpackages.congr fun finding => workspaceWrites_iff.symm

/-- So it holds what the workspace writes. -/
theorem has_iff_of_scan_workspace (hscan : scan_workspace sources stack metadata = .ok scanner)
    (finding : Finding) : scanner.Has finding ↔ WorkspaceWrites sources metadata finding := by
  rw [(finds_scan_workspace hscan).has]
  exact or_iff_right (not_has_starting finding)

/-- An edge that a workspace writes, or that a reference it writes makes by
resolving to another module than its own. -/
def Draws (sources : Sources) (metadata : Metadata) (scanner : Scanner) (edge : Edge) : Prop :=
  WorkspaceWrites sources metadata (.Edge edge) ∨
    ∃ r, WorkspaceWrites sources metadata (.Ref r) ∧ ∃ to_target,
      scanner.ref_target r = some to_target ∧ to_target ≠ r.module ∧
        edge = scanner.ref_edge r to_target

/-- A model holds what its workspace writes, its edges each once and in order. -/
structure Exact (sources : Sources) (metadata : Metadata) (scanner : Scanner) (model : Model)
    (warnings : List String) : Prop where
  modules : ∀ path, path ∈ model.modules ↔ WorkspaceWrites sources metadata (.Module path)
  crates : ∀ lib, lib ∈ model.workspace_crates ↔ metadata.Lib lib
  edges : ∀ edge, edge ∈ model.edges ↔ Draws sources metadata scanner edge
  ascending : Ascending model.edges
  warnings : ∀ text, text ∈ warnings ↔ WorkspaceWrites sources metadata (.Warning text)

/-- And its model does. -/
theorem exact_of_scan_workspace (hscan : scan_workspace sources stack metadata = .ok scanner) :
    Exact sources metadata scanner scanner.finish.1 scanner.finish.2 := by
  have hhas := has_iff_of_scan_workspace hscan
  refine ⟨fun path => ?_, fun lib => ?_, fun edge => ?_, scanner.ascending_edges,
    fun text => hhas (.Warning text)⟩
  · rw [← hhas]
    exact Std.ExtTreeMap.mem_map
  · rw [← mem_starting_iff, ← (finds_scan_workspace hscan).workspace_crates]
    rfl
  · rw [Scanner.mem_finish_edges]
    simp only [Draws, ← hhas, Scanner.Has]

/-- The model of a workspace holds exactly what its code and its manifests
write, however deep in the code and under whatever attributes: nothing is left
out, nothing else is in it, and its edges are in order, each once. -/
theorem build_model_exact {model : Model} {warnings : List String}
    (hmodel : build_model sources stack metadata = .ok (model, warnings)) :
    ∃ scanner, scan_workspace sources stack metadata = .ok scanner ∧
      Exact sources metadata scanner model warnings := by
  obtain ⟨scanner, hscan, hfinish⟩ := Outcome.map_eq_ok_iff.mp hmodel
  obtain rfl : scanner.finish.1 = model := congrArg Prod.fst hfinish
  obtain rfl : scanner.finish.2 = warnings := congrArg Prod.snd hfinish
  exact ⟨scanner, hscan, exact_of_scan_workspace hscan⟩

end

section

/-- `char::is_alphanumeric` on ASCII. -/
scoped instance ascii : Alphanumeric where
  is_alphanumeric := Char.isAlphanum
  ascii _ _ := rfl

/-- Source files with nothing in them. -/
def blank : Sources :=
  { read := fun _ => some "", is_file := fun _ => true, parse_file := fun _ => .ok [] }

def shelf.package : Package :=
  { name := "shelf", manifest_path := .of "/shop/shelf/Cargo.toml"
    targets := [{ name := "shelf", kind := ["lib"], src_path := .of "/shop/shelf/src/lib.rs" }]
    dependencies := [] }

def shelf.dependency (rename : Option String) : Dependency :=
  { name := "shelf", rename, kind := none, path := some (.of "/shop/shelf") }

/-- A shop that depends on its shelf, under a rename if it gives it one. -/
def shelf.shop (rename : Option String) : Package :=
  { name := "shop", manifest_path := .of "/shop/Cargo.toml"
    targets := [{ name := "shop", kind := ["lib"], src_path := .of "/shop/src/lib.rs" }]
    dependencies := [shelf.dependency rename] }

def shelf.metadata (rename : Option String) : Metadata :=
  { packages := [shelf.shop rename, shelf.package], workspace_root := .of "/shop" }

theorem shelf.cargo_names {rename : Option String} (hrename : CrateName (rename.getD "shelf")) :
    CargoNames (shelf.metadata rename) where
  package := by simp [metadata, shop, package, CrateName]
  library := by simp [metadata, shop, package, CrateName]
  kind := by simp [metadata, shop, package]
  dependency := by simpa [metadata, shop, package, shelf.dependency] using hrename

/-- Source files by their paths, each with its text and what that parses as. -/
def shelf.sources (files : List (String × String × List Item)) : Sources where
  read path := (files.find? fun file => decide (PathBuf.of file.1 = path)).map fun file => file.2.1
  is_file path := files.any fun file => decide (PathBuf.of file.1 = path)
  parse_file text :=
    .ok (((files.find? fun file => decide (file.2.1 = text)).map fun file => file.2.2).getD [])

/-- What the shop's code calls its shelf. -/
def shelf.ident : Ident := ⟨"shelf", by decide, by decide⟩

/-- `mod tests { use shelf::*; }`, under attributes on a line of their own. -/
def shelf.tests (attrs : List Attribute) : Item :=
  .Mod attrs ⟨"tests", by decide, by decide⟩
    (some [.Use { attrs := [], leading_colon := false, line := 3
                  tree := .Path shelf.ident .Glob }])

/-- The shop's tests, and a shelf without code. -/
def shelf.tested : Sources :=
  shelf.sources [
    ("/shop/src/lib.rs", "#[cfg(test)]\nmod tests \x7b\n    use shelf::*;\n\x7d\n",
      [shelf.tests [{ ident := some "cfg", contents := .List "test" }]]),
    ("/shop/shelf/src/lib.rs", "", [])]

theorem build_model_exact_shelf : ∃ model warnings,
    build_model shelf.tested 1 (shelf.metadata none) = .ok (model, warnings) ∧
      "shop::tests" ∈ model.modules := by
  obtain ⟨built, hmodel⟩ : ∃ built, build_model shelf.tested 1 (shelf.metadata none) = .ok built :=
    ⟨_, rfl⟩
  obtain ⟨_, _, hexact⟩ := build_model_exact hmodel
  refine ⟨built.1, built.2, hmodel, (hexact.modules _).mpr ?_⟩
  have hshop : shelf.shop none ∈ (shelf.metadata none).packages := by simp [shelf.metadata]
  exact .target hshop ⟨[], [], rfl, by simp⟩
    (.item (by rfl) (by rfl) (List.mem_singleton_self _) .inline_module)

end

end archlint.workspace
