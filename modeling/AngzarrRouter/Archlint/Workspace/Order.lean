import AngzarrRouter.Archlint.Scan.Local
import AngzarrRouter.Archlint.Scan.Ordered
import AngzarrRouter.Archlint.Workspace.Written

open calls calls.MutCall
open text archlint.model archlint.scan archlint.syntax

namespace archlint.workspace

/-- The same workspace, its packages listed as they are here. -/
def Metadata.listed (metadata : Metadata) (packages : List Package) : Metadata :=
  { metadata with packages }

section

variable {metadata : Metadata} {packages : List Package}

/-- Names are cargo's in whatever order. -/
theorem CargoNames.listed (hnames : CargoNames metadata)
    (hmem : ∀ p, p ∈ packages → p ∈ metadata.packages) : CargoNames (metadata.listed packages) where
  package p hp := hnames.package p (hmem p hp)
  library p hp := hnames.library p (hmem p hp)
  kind p hp := hnames.kind p (hmem p hp)
  dependency p hp := hnames.dependency p (hmem p hp)

/-- A package whose targets' roots lie in its crate. -/
structure InOwnCrate (p : Package) : Prop where
  lib : CrateName p.lib_name
  root : ∀ t ∈ p.targets, InCrate p.lib_name (t.root_module p.lib_name)

theorem CargoNames.inOwnCrate (hnames : CargoNames metadata) {p : Package}
    (hp : p ∈ metadata.packages) : InOwnCrate p :=
  ⟨hnames.lib_name hp, fun _ ht => hnames.root_module hp ht⟩

/-- A dependency changes no module. -/
theorem held_add_dependency (metadata : Metadata) (p : Package) (scanner : Scanner)
    (dep : Dependency) (path : String) :
    (add_dependency metadata p scanner dep).held path = scanner.held path := by
  unfold add_dependency
  dsimp only
  split
  · split <;> rfl
  · rfl

/-- A manifest's dependencies are in no table of modules. -/
theorem keeps_add_dependencies (lib : String) (metadata : Metadata) (p : Package) :
    Keeps lib fun scanner => p.dependencies.foldl (add_dependency metadata p) scanner :=
  .foldl _ fun dep _ => keeps_of_held fun scanner path => held_add_dependency metadata p scanner dep path

end

/-- Packages no two of which are in one crate. -/
def Apart (packages : List Package) : Prop := (packages.map Package.lib_name).Nodup

theorem Apart.head {p q : Package} {packages : List Package}
    (hapart : Apart (p :: packages)) (hq : q ∈ packages) :
    p.lib_name ≠ q.lib_name := by
  intro heq
  exact (List.nodup_cons.mp hapart).1 (List.mem_map.mpr ⟨q, hq, heq.symm⟩)

/-- What resolving a reference reads: the tables, and no more. -/
theorem ref_target_recorded (scanner : Scanner) (workspace_root : PathBuf) (refs : List RawRef)
    (edges : List Edge) (warnings : List String) (r : RawRef) :
    { scanner with workspace_root, refs, edges, warnings }.ref_target r = scanner.ref_target r := by
  with_unfolding_all rfl

/-- A reference resolves by the modules and crates alone. -/
theorem ref_target_eq {left right : Scanner} (hmodules : left.modules = right.modules)
    (hknown : left.known = right.known) (hcrates : left.workspace_crates = right.workspace_crates) :
    left.ref_target = right.ref_target := by
  funext r
  rw [← ref_target_recorded right left.workspace_root left.refs left.edges left.warnings r]
  congr 1
  obtain ⟨_, _, _, _, _, _, _⟩ := left
  simp_all

theorem held_starting (metadata : Metadata) (path : String) :
    (starting metadata).held path = (none, none) := by
  rw [starting_eq]
  simp [Scanner.held, Scanner.new]

theorem agree_starting (metadata : Metadata) (lib : String) :
    Agree lib (starting metadata) (.new .empty) := fun path _ => by
  rw [held_starting]
  simp [Scanner.held, Scanner.new]

/-- Scanners that hold the same in their tables finish alike, if what they
found is the same. -/
theorem finish_eq {left right : Scanner} (hheld : ∀ path, left.held path = right.held path)
    (hcrates : left.workspace_crates = right.workspace_crates)
    (hroot : left.workspace_root = right.workspace_root)
    (hhas : ∀ finding, left.Has finding ↔ right.Has finding) : left.finish.1 = right.finish.1 := by
  have hmodules : left.modules = right.modules :=
    Std.ExtTreeMap.ext_getElem? fun path => congrArg Prod.fst (hheld path)
  have hknown : left.known = right.known :=
    Std.ExtTreeMap.ext_getElem? fun path => congrArg Prod.snd (hheld path)
  have hrelative : left.relative = right.relative := by
    funext path
    simp only [Scanner.relative, hroot]
  have hedges : left.finish.1.edges = right.finish.1.edges := by
    refine left.ascending_edges.eq_of_mem_iff right.ascending_edges fun edge => ?_
    have hrefs : ∀ r, r ∈ left.refs ↔ r ∈ right.refs := fun r => hhas (.Ref r)
    have hfound : edge ∈ left.edges ↔ edge ∈ right.edges := hhas (.Edge edge)
    simp only [Scanner.mem_finish_edges, hrefs, hfound, ref_target_eq hmodules hknown hcrates,
      Scanner.ref_edge, hrelative]
  have hmodel : ∀ {a b : Model}, a.modules = b.modules → a.workspace_crates = b.workspace_crates →
      a.edges = b.edges → a = b := by
    rintro ⟨_, _, _⟩ ⟨_, _, _⟩ rfl rfl rfl
    rfl
  refine hmodel ?_ hcrates hedges
  simp only [Scanner.finish, hmodules, hrelative]

section

variable [Alphanumeric] {sources : Sources} {stack : Nat} {metadata : Metadata} {p : Package}
  {packages : List Package} {start after : Scanner}

/-- Scanning a target is local to its crate. -/
theorem local_add_target (hlib : CrateName p.lib_name) (sources : Sources) (stack : Nat) {t : Target}
    (hroot : InCrate p.lib_name (t.root_module p.lib_name)) (known : BTreeSet) :
    Local p.lib_name fun scanner =>
      scanner.add_target sources stack (t.root_module p.lib_name) t.src_path t.scope known := by
  have hknown : Keeps p.lib_name fun scanner : Scanner =>
      { scanner with known := scanner.known.insert (t.root_module p.lib_name) known } := by
    refine ⟨fun scanner path hpath => ?_, fun {left right} hagree path hpath => ?_⟩
    · have hne : t.root_module p.lib_name ≠ path := fun heq => hpath (heq ▸ hroot)
      simp [Scanner.held, Std.ExtTreeMap.getElem?_insert, hne]
    · have hsame := hagree path hpath
      simp only [Scanner.held, Prod.mk.injEq, Std.ExtTreeMap.getElem?_insert] at hsame ⊢
      rw [hsame.1, hsame.2]
      exact ⟨rfl, rfl⟩
  exact .after hknown (local_walk_file hlib sources stack _ hroot)

/-- So is scanning a package's targets. -/
theorem local_add_targets (hp : InOwnCrate p) (seen : BTreeSet) (targets : List Target)
    (htargets : targets ⊆ p.targets) :
    Local p.lib_name fun scanner => add_targets sources stack p scanner seen targets := by
  induction targets generalizing seen with
  | nil => exact ⟨keeps_of_held fun _ _ => rfl, fun _ _ => rfl⟩
  | cons target targets ih =>
    obtain ⟨htarget, hrest⟩ := List.cons_subset.mp htargets
    unfold add_targets
    dsimp only
    split
    · exact ih seen hrest
    · exact (local_add_target hp.lib sources stack (hp.root target htarget) p.known).andThen
        (ih _ hrest)

/-- A package reads and writes its own crate in the tables, and how its scan
ends is decided by the sources alone. -/
theorem local_scan_package (hp : InOwnCrate p) (metadata : Metadata) :
    Local p.lib_name fun scanner => scan_package sources stack metadata scanner p :=
  (local_add_targets hp ∅ p.targets (List.Subset.refl _)).andThen
    (keeps_add_dependencies p.lib_name metadata p).call

/-- The scan of a package on its own. -/
def solo (sources : Sources) (stack : Nat) (p : Package) : MutCall Scanner String Unit :=
  add_targets sources stack p (.new .empty) ∅ p.targets

/-- A package's scan ends as it does on its own. -/
theorem scan_package_outcome (hp : InOwnCrate p) (metadata : Metadata) (scanner : Scanner) :
    (scan_package sources stack metadata scanner p).2 = (solo sources stack p).2 := by
  have hadded : Local p.lib_name fun scanner => add_targets sources stack p scanner ∅ p.targets :=
    local_add_targets hp ∅ p.targets (List.Subset.refl _)
  have houtcome := hadded.outcome scanner (.new .empty)
  unfold scan_package
  rw [solo, ← houtcome]
  obtain ⟨left, ⟨⟩ | error | _⟩ := add_targets sources stack p scanner ∅ p.targets <;> rfl

/-- What a package's scan leaves of its crate in the tables is what its scan on
its own does, if there was nothing of it there. -/
theorem agree_solo (hp : InOwnCrate p) (hstart : Agree p.lib_name start (.new .empty))
    (hscan : scan_package sources stack metadata start p = (after, .ok ())) :
    Agree p.lib_name after (solo sources stack p).1 := by
  obtain ⟨middle, _, htargets, hdeps⟩ := andThen_eq_ok_iff.mp hscan
  obtain ⟨rfl, _⟩ := Prod.mk.inj hdeps
  have hlocal : Local p.lib_name fun scanner => add_targets sources stack p scanner ∅ p.targets :=
    local_add_targets hp ∅ p.targets (List.Subset.refl _)
  have hadded := hlocal.keeps.agree hstart
  intro path hpath
  rw [solo, ← hadded path hpath, htargets]
  refine List.foldlRecOn (motive := fun scanner => Scanner.held scanner path = middle.held path)
    _ _ rfl fun scanner hheld dep _ => ?_
  rw [held_add_dependency, hheld]

/-- Scanning packages leaves in the tables what each does on its own. -/
theorem held_packages (hpackages : ∀ p ∈ packages, InOwnCrate p) (hapart : Apart packages)
    (hstart : ∀ p ∈ packages, Agree p.lib_name start (.new .empty))
    (hscan : for_each (scan_package sources stack metadata) start packages = (after, .ok ())) :
    (∀ p ∈ packages, Agree p.lib_name after (solo sources stack p).1) ∧
      ∀ path, (∀ p ∈ packages, ¬ InCrate p.lib_name path) → after.held path = start.held path := by
  induction packages generalizing start with
  | nil =>
    obtain ⟨rfl, _⟩ := Prod.mk.inj hscan
    exact ⟨fun p hp => absurd hp List.not_mem_nil, fun _ _ => rfl⟩
  | cons p packages ih =>
    obtain ⟨hp, hothers⟩ := List.forall_mem_cons.mp hpackages
    obtain ⟨hfirst, hlater⟩ := List.forall_mem_cons.mp hstart
    obtain ⟨middle, _, hscanned, hrest⟩ := andThen_eq_ok_iff.mp hscan
    have hframe : ∀ path, ¬ InCrate p.lib_name path → middle.held path = start.held path := by
      have hlocal : Local p.lib_name fun scanner => scan_package sources stack metadata scanner p :=
        local_scan_package hp metadata
      have hkept := hlocal.keeps.frame start
      rw [hscanned] at hkept
      exact hkept
    have haway : ∀ {q}, q ∈ packages → ∀ {path}, InCrate p.lib_name path → ¬ InCrate q.lib_name path :=
      fun hq _ hinside hother =>
        hapart.head hq (hinside.unique hp.lib (hothers _ hq).lib hother)
    obtain ⟨hagree, houtside⟩ := ih hothers (List.nodup_cons.mp hapart).2
      (fun q hq path hpath => by
        rw [hframe path fun hinside => haway hq hinside hpath]
        exact hlater q hq path hpath) hrest
    constructor
    · refine List.forall_mem_cons.mpr ⟨fun path hpath => ?_, hagree⟩
      rw [houtside path fun q hq => haway hq hpath]
      exact agree_solo hp hfirst hscanned path hpath
    · intro path hnone
      obtain ⟨hnot, hnone⟩ := List.forall_mem_cons.mp hnone
      rw [houtside path hnone, hframe path hnot]

/-- A scan of packages ends well exactly if that of each on its own does. -/
theorem packages_ok_iff (hpackages : ∀ p ∈ packages, InOwnCrate p) (start : Scanner) :
    (∃ after, for_each (scan_package sources stack metadata) start packages = (after, .ok ())) ↔
      ∀ p ∈ packages, (solo sources stack p).2 = .ok () := by
  induction packages generalizing start with
  | nil => exact ⟨fun _ p hp => absurd hp List.not_mem_nil, fun _ => ⟨start, rfl⟩⟩
  | cons p packages ih =>
    obtain ⟨hp, hothers⟩ := List.forall_mem_cons.mp hpackages
    have houtcome : (scan_package sources stack metadata start p).2 = (solo sources stack p).2 :=
      scan_package_outcome hp metadata start
    rw [for_each_cons, List.forall_mem_cons, ← houtcome]
    generalize scan_package sources stack metadata start p = call
    obtain ⟨middle, ⟨⟩ | error | _⟩ := call
    · simpa using ih hothers middle
    · exact ⟨nofun, fun ⟨hfirst, _⟩ => nomatch hfirst⟩
    · exact ⟨nofun, fun ⟨hfirst, _⟩ => nomatch hfirst⟩

/-- The warnings of a package's scan, in a workspace. -/
def warned (sources : Sources) (stack : Nat) (workspace_root : PathBuf) (p : Package) : List String :=
  (add_targets sources stack p (.new workspace_root) ∅ p.targets).1.warnings

/-- A package's targets warn alike, whatever was scanned before. -/
theorem warns_add_targets (workspace_root : PathBuf) (p : Package) (seen : BTreeSet)
    (targets : List Target) :
    Warns workspace_root fun scanner => add_targets sources stack p scanner seen targets := by
  induction targets generalizing seen with
  | nil => exact warns_of_quiet (.ok ()) (fun _ => rfl) fun _ => rfl
  | cons target targets ih =>
    unfold add_targets
    dsimp only
    split
    · exact ih seen
    · have hknown : Warns workspace_root fun scanner : Scanner => ({ scanner with
          known := scanner.known.insert (target.root_module p.lib_name) p.known }, .ok ()) :=
        warns_of_quiet (.ok ()) (fun _ => rfl) fun _ => rfl
      have hwalked : Warns workspace_root fun scanner => scanner.walk_file sources stack
          (target.root_module p.lib_name) (target.ctx p.lib_name) := warns_walk_file ..
      exact (hknown.andThen hwalked).andThen (ih _)

/-- Whatever was scanned before it, a package's scan adds its own warnings. -/
theorem warnings_scan_package (metadata : Metadata)
    (hscan : scan_package sources stack metadata start p = (after, .ok ())) :
    after.workspace_root = start.workspace_root ∧
      after.warnings = start.warnings ++ warned sources stack start.workspace_root p := by
  obtain ⟨middle, _, htargets, hdeps⟩ := andThen_eq_ok_iff.mp hscan
  obtain ⟨rfl, _⟩ := Prod.mk.inj hdeps
  have hadds : Warns start.workspace_root fun scanner =>
      add_targets sources stack p scanner ∅ p.targets := warns_add_targets _ p ∅ p.targets
  obtain ⟨added, outcome, hwarns⟩ := hadds
  dsimp only at hwarns
  obtain ⟨hroot, hwarnings, _⟩ := hwarns start rfl
  obtain ⟨_, halone, _⟩ := hwarns (.new start.workspace_root) rfl
  rw [htargets] at hroot hwarnings
  rw [warned, halone, show (Scanner.new start.workspace_root).warnings = [] from rfl, List.nil_append,
    ← hwarnings]
  refine List.foldlRecOn (motive := fun scanner : Scanner =>
    scanner.workspace_root = start.workspace_root ∧ scanner.warnings = middle.warnings) _ _ ⟨hroot, rfl⟩
    fun scanner hquiet dep _ => ?_
  obtain ⟨hroot, hwarnings⟩ := hquiet
  rw [← hroot, ← hwarnings]
  unfold add_dependency
  dsimp only
  split
  · split <;> exact ⟨rfl, rfl⟩
  · exact ⟨rfl, rfl⟩

/-- So a scan of packages adds those of one after those of another. -/
theorem warnings_packages
    (hscan : for_each (scan_package sources stack metadata) start packages = (after, .ok ())) :
    after.warnings = start.warnings ++ packages.flatMap (warned sources stack start.workspace_root) := by
  induction packages generalizing start with
  | nil =>
    obtain ⟨rfl, _⟩ := Prod.mk.inj hscan
    exact (List.append_nil _).symm
  | cons p packages ih =>
    obtain ⟨middle, _, hfirst, hlater⟩ := andThen_eq_ok_iff.mp hscan
    obtain ⟨hroot, hwarnings⟩ := warnings_scan_package metadata hfirst
    rw [ih hlater, hroot, hwarnings, List.append_assoc, List.flatMap_cons]

/-- A workspace warns of what its packages do, one after another. -/
theorem warnings_scan_workspace {scanner : Scanner}
    (hscan : scan_workspace sources stack metadata = .ok scanner) :
    scanner.warnings = metadata.packages.flatMap (warned sources stack metadata.workspace_root) := by
  have hwarnings := warnings_packages (scan_workspace_eq_ok_iff.mp hscan)
  rw [starting_workspace_root, starting_eq] at hwarnings
  exact hwarnings

/-- What the packages of a workspace write, they do in any order. -/
theorem workspaceWrites_listed (hmem : ∀ p, p ∈ metadata.packages ↔ p ∈ packages) {finding : Finding} :
    WorkspaceWrites sources (metadata.listed packages) finding ↔
      WorkspaceWrites sources metadata finding := by
  have hdeclares : ∀ p dep, Declares (metadata.listed packages) p dep finding ↔
      Declares metadata p dep finding := by
    intro p dep
    constructor
    · intro hdeclares
      cases hdeclares with
      | dependency => exact .dependency
      | on_disk hpath houtside =>
        exact .on_disk hpath fun other hother => houtside other ((hmem other).mp hother)
    · intro hdeclares
      cases hdeclares with
      | dependency => exact .dependency
      | on_disk hpath houtside =>
        exact .on_disk hpath fun other hother => houtside other ((hmem other).mpr hother)
  simp only [workspaceWrites_iff, PackageWrites, hdeclares, hmem]
  rfl

/-- A scan holds, for each crate, what scanning its package alone finds. -/
theorem held_scan_workspace (hnames : CargoNames metadata) (hapart : Apart metadata.packages)
    {scanner : Scanner} (hscan : scan_workspace sources stack metadata = .ok scanner) :
    (∀ p ∈ metadata.packages, Agree p.lib_name scanner (solo sources stack p).1) ∧
      ∀ path, (∀ p ∈ metadata.packages, ¬ InCrate p.lib_name path) → scanner.held path = (none, none) := by
  obtain ⟨hagree, houtside⟩ := held_packages (fun p hp => hnames.inOwnCrate hp) hapart
    (fun p _ => agree_starting metadata p.lib_name) (scan_workspace_eq_ok_iff.mp hscan)
  exact ⟨hagree, fun path hnone => (houtside path hnone).trans (held_starting metadata path)⟩

/-- A scan succeeds where each package's alone does. -/
theorem scan_workspace_ok_iff (hnames : CargoNames metadata) :
    (∃ scanner, scan_workspace sources stack metadata = .ok scanner) ↔
      ∀ p ∈ metadata.packages, (solo sources stack p).2 = .ok () := by
  simp only [scan_workspace_eq_ok_iff]
  exact packages_ok_iff (fun p hp => hnames.inOwnCrate hp) _

/-- A scan of the same packages in another order ends well where theirs does,
with the same in its tables. -/
theorem scan_workspace_listed (hnames : CargoNames metadata) (hapart : Apart metadata.packages)
    (hperm : metadata.packages.Perm packages) {scanner : Scanner}
    (hscan : scan_workspace sources stack metadata = .ok scanner) :
    ∃ other, scan_workspace sources stack (metadata.listed packages) = .ok other ∧
      ∀ path, other.held path = scanner.held path := by
  have hmem : ∀ p, p ∈ packages ↔ p ∈ metadata.packages := fun p => hperm.mem_iff.symm
  have hnames' : CargoNames (metadata.listed packages) := hnames.listed fun p => (hmem p).mp
  have hapart' : Apart (metadata.listed packages).packages :=
    (hperm.map Package.lib_name).nodup_iff.mp hapart
  obtain ⟨other, hother⟩ : ∃ other, scan_workspace sources stack (metadata.listed packages) = .ok other :=
    (scan_workspace_ok_iff hnames').mpr fun p hp =>
      (scan_workspace_ok_iff hnames).mp ⟨scanner, hscan⟩ p ((hmem p).mp hp)
  obtain ⟨hagree, houtside⟩ := held_scan_workspace hnames hapart hscan
  obtain ⟨hagree', houtside'⟩ := held_scan_workspace hnames' hapart' hother
  refine ⟨other, hother, fun path => ?_⟩
  by_cases hinside : ∃ p ∈ metadata.packages, InCrate p.lib_name path
  · obtain ⟨p, hp, hpath⟩ := hinside
    rw [hagree p hp path hpath, hagree' p ((hmem p).mpr hp) path hpath]
  · have hnone : ∀ p ∈ metadata.packages, ¬ InCrate p.lib_name path :=
      fun p hp hpath => hinside ⟨p, hp, hpath⟩
    rw [houtside path hnone, houtside' path fun p hp => hnone p ((hmem p).mp hp)]

/-- The model of a workspace is the same, to the order of its edges, however
its packages are listed, and so are its warnings but for their order. -/
theorem build_model_listed (hnames : CargoNames metadata) (hapart : Apart metadata.packages)
    (hperm : metadata.packages.Perm packages) {model : Model} {warnings : List String}
    (hmodel : build_model sources stack metadata = .ok (model, warnings)) :
    ∃ others, build_model sources stack (metadata.listed packages) = .ok (model, others) ∧
      others.Perm warnings := by
  obtain ⟨scanner, hscan, hfinish⟩ := Outcome.map_eq_ok_iff.mp hmodel
  obtain ⟨other, hother, hheld⟩ := scan_workspace_listed hnames hapart hperm hscan
  have hhas : ∀ finding, other.Has finding ↔ scanner.Has finding := fun finding => by
    rw [has_iff_of_scan_workspace hother, has_iff_of_scan_workspace hscan,
      workspaceWrites_listed fun p => hperm.mem_iff]
  have hroot : other.workspace_root = scanner.workspace_root := by
    rw [(finds_scan_workspace hother).workspace_root, (finds_scan_workspace hscan).workspace_root,
      starting_workspace_root, starting_workspace_root]
    rfl
  have hcrates : other.workspace_crates = scanner.workspace_crates := by
    refine Std.ExtTreeSet.ext_mem fun {lib} => ?_
    rw [(finds_scan_workspace hother).workspace_crates, (finds_scan_workspace hscan).workspace_crates,
      mem_starting_iff, mem_starting_iff]
    exact exists_congr fun p => and_congr_left fun _ => hperm.mem_iff.symm
  have hmodel_eq := finish_eq hheld hcrates hroot hhas
  obtain rfl : scanner.finish.1 = model := congrArg Prod.fst hfinish
  obtain rfl : scanner.finish.2 = warnings := congrArg Prod.snd hfinish
  refine ⟨other.finish.2, ?_, ?_⟩
  · rw [build_model_of_scan_workspace hother, ← hmodel_eq]
  · change other.warnings.Perm scanner.warnings
    rw [warnings_scan_workspace hother, warnings_scan_workspace hscan]
    exact hperm.symm.flatMap_right _

end

section

theorem build_model_listed_shelf : ∃ model warnings others,
    build_model shelf.tested 1 (shelf.metadata none) = .ok (model, warnings) ∧
      build_model shelf.tested 1 ((shelf.metadata none).listed [shelf.package, shelf.shop none]) =
        .ok (model, others) ∧ others.Perm warnings := by
  obtain ⟨built, hmodel⟩ : ∃ built, build_model shelf.tested 1 (shelf.metadata none) = .ok built :=
    ⟨_, rfl⟩
  have hapart : Apart (shelf.metadata none).packages := by
    unfold Apart
    decide
  obtain ⟨others, hothers, hperm⟩ := build_model_listed (shelf.cargo_names (by decide)) hapart
    (.swap ..) hmodel
  exact ⟨built.1, built.2, others, hmodel, hothers, hperm⟩

end

end archlint.workspace
