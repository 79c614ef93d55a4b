import AngzarrRouter.Archlint.Scan.Imports
import AngzarrRouter.Archlint.Workspace.Built

open calls calls.MutCall
open text archlint.model archlint.scan archlint.syntax

namespace archlint.scan

/-- What a registered scanner becomes, scanning on: its modules keep their roots. -/
structure Registers (before after : Scanner) : Prop where
  registered : Registered after
  workspace_crates : after.workspace_crates = before.workspace_crates
  rooted : ∀ {root path}, Rooted before root path → Rooted after root path

section

variable {scanner before after : Scanner} {root path : String} {ctx : Ctx}

theorem Registers.refl (hscanner : Registered scanner) : Registers scanner scanner :=
  ⟨hscanner, rfl, fun hrooted => hrooted⟩

theorem Registers.trans {middle : Scanner} (hfirst : Registers before middle)
    (hrest : Registers middle after) : Registers before after :=
  ⟨hrest.registered, hrest.workspace_crates.trans hfirst.workspace_crates,
    fun hrooted => hrest.rooted (hfirst.rooted hrooted)⟩

/-- A call registers where what it does and what follows it do. -/
theorem Registers.andThen {α β : Type} {call : MutCall Scanner String α}
    {next : Scanner → α → MutCall Scanner String β} (hcall : Registers before call.1)
    (hnext : ∀ value, Registers call.1 (next call.1 value).1) :
    Registers before (call.andThen next).1 := by
  obtain ⟨left, value | error | _⟩ := call
  · exact hcall.trans (hnext value)
  · exact hcall
  · exact hcall

/-- A loop registers where its body does. -/
theorem Registers.foldl {α : Type} (body : Scanner → α → Scanner) (items : List α)
    (hbefore : Registered before)
    (hbody : ∀ scanner, Registered scanner → ∀ item ∈ items, Registers scanner (body scanner item)) :
    Registers before (items.foldl body before) := by
  induction items generalizing before with
  | nil => exact .refl hbefore
  | cons item items ih =>
    have hfirst := hbody before hbefore item (List.mem_cons_self ..)
    exact hfirst.trans (ih hfirst.registered fun scanner hscanner item hitem =>
      hbody scanner hscanner item (List.mem_cons_of_mem _ hitem))

/-- What is recorded beside the modules changes none of them. -/
theorem Registers.recorded (hscanner : Registered scanner) (known : BTreeMap BTreeSet)
    (refs : List RawRef) (edges : List Edge) (warnings : List String) :
    Registers scanner { scanner with known, refs, edges, warnings } :=
  ⟨hscanner.recorded known refs edges warnings, rfl, fun hrooted => hrooted⟩

/-- A module's entry may change, if not its root. -/
theorem rooted_insert {other : String} {old new : ModuleInfo}
    (hold : scanner.modules[other]? = some old) (hroot : new.root = old.root)
    (hrooted : Rooted scanner root path) :
    Rooted { scanner with modules := scanner.modules.insert other new } root path := by
  obtain ⟨info, hinfo, rfl⟩ := hrooted
  by_cases hsame : other = path
  · subst hsame
    obtain rfl := Option.some.inj (hinfo.symm.trans hold)
    exact ⟨new, Std.ExtTreeMap.getElem?_insert_self, hroot⟩
  · refine ⟨info, ?_, rfl⟩
    rw [Std.ExtTreeMap.getElem?_insert, if_neg (by simpa using hsame)]
    exact hinfo

/-- A module may be registered under its target's root. -/
theorem Registers.register (hbefore : Registered before) (ctx : Ctx)
    (hafter : Registered (before.register root ctx)) (hbelow : Below root ctx.module)
    (htarget : ∃ lib ∈ before.workspace_crates, TargetRoot lib root) :
    Registers before (before.register root ctx) ∧ Rooted (before.register root ctx) root ctx.module := by
  have hthere : Rooted (before.enter root ctx) root ctx.module :=
    ⟨_, Std.ExtTreeMap.getElem?_insert_self, rfl⟩
  have hentered : ∀ {root' path}, Rooted before root' path →
      Rooted (before.enter root ctx) root' path := by
    rintro _ path ⟨info, hinfo, rfl⟩
    by_cases hsame : ctx.module = path
    · subst hsame
      rw [hbefore.forest.root_eq hinfo hbelow htarget]
      exact hthere
    · refine ⟨info, ?_, rfl⟩
      rw [Scanner.enter, Std.ExtTreeMap.getElem?_insert, if_neg (by simpa using hsame)]
      exact hinfo
  have hadopted : ∀ parent name root' path, Rooted (before.enter root ctx) root' path →
      Rooted ((before.enter root ctx).adopt parent name) root' path := by
    intro parent name root' path hrooted
    unfold Scanner.adopt
    split
    · rename_i hparent
      exact rooted_insert hparent rfl hrooted
    · exact hrooted
  have hcrates : (before.register root ctx).workspace_crates = before.workspace_crates := by
    unfold Scanner.register
    split
    · unfold Scanner.adopt
      dsimp only
      split
      · rfl
      · rfl
    · rfl
  have hregistered : ∀ {root' path}, Rooted (before.enter root ctx) root' path →
      Rooted (before.register root ctx) root' path := by
    intro root' path hrooted
    unfold Scanner.register
    split
    · exact hadopted _ _ _ _ hrooted
    · exact hrooted
  exact ⟨⟨hafter, hcrates, fun hrooted => hregistered (hentered hrooted)⟩, hregistered hthere⟩

/-- An import of segments may be added. -/
theorem Registers.add_alias (hscanner : Registered scanner) (module : String)
    (imported : Option String) {segs : List String} (hsegs : Segments segs) :
    Registers scanner (scanner.add_alias module imported segs) := by
  refine ⟨hscanner.add_alias module imported segs hsegs, ?_, fun hrooted => ?_⟩
  · unfold Scanner.add_alias
    split
    · rfl
    · rfl
  · unfold Scanner.add_alias
    split
    · rename_i hinfo
      exact rooted_insert hinfo rfl hrooted
    · exact hrooted

/-- A `use` of segments may be recorded. -/
theorem Registers.record_use (hscanner : Registered scanner) (ctx : Ctx) (u : ItemUse)
    (hleaves : ∀ leaf ∈ flatten_use u.tree [], Segments leaf.1) (scope : Scope)
    (module_level : Bool) : Registers scanner (scanner.record_use ctx u scope module_level) := by
  refine .foldl _ _ hscanner fun scanner hscanner leaf hleaf => ?_
  have haliased : Registers scanner
      (if module_level then scanner.add_alias ctx.module leaf.2 leaf.1 else scanner) := by
    split
    · exact .add_alias hscanner _ _ (hleaves leaf hleaf)
    · exact .refl hscanner
  exact haliased.trans (.recorded haliased.registered _ _ _ _)

/-- Any other item may be recorded. -/
theorem Registers.record_other [Alphanumeric] (hscanner : Registered scanner) (ctx : Ctx)
    (scope : Scope) (attrs : List Attribute) (children : List Node) :
    Registers scanner (scanner.record_other ctx scope attrs children) := by
  have hpushed := Registers.recorded hscanner scanner.known
    (scanner.refs ++ ((Collector.new ctx scope).visit (.Item attrs children)).refs) scanner.edges
    scanner.warnings
  refine hpushed.trans (.foldl _ _ hpushed.registered fun scanner hscanner found _ => ?_)
  exact .recorded hscanner _ _ _ _

/-- A module below another may be registered under the same root. -/
theorem Registers.nested (hscanner : Registered scanner) (ctx : Ctx) {parent name : String}
    (hparent : Rooted scanner root parent) (hname : Segment name)
    (hctx : ctx.module = child_path parent name) :
    Registers scanner (scanner.register root ctx) ∧
      Rooted (scanner.register root ctx) root ctx.module := by
  obtain ⟨info, hinfo, rfl⟩ := id hparent
  have hentry := hscanner.forest.entry hinfo
  exact Registers.register hscanner ctx (hscanner.nested _ parent name hparent hname ctx hctx)
    (hctx ▸ hentry.below.child hname) hentry.target

variable [Alphanumeric]

/-- Registering is what the walk of a target's files does to a scanner, where
identifiers name the modules and the imports in them. -/
def registering (root : String) : Preserved root where
  Holds := Registered
  Becomes := Registers
  Ready scanner module := Rooted scanner root module
  names ident := Segment ident.to_string
  imports u := ∀ leaf ∈ flatten_use u.tree [], Segments leaf.1
  refl hscanner := .refl hscanner
  trans hfirst hrest := hfirst.trans hrest
  holds hregisters := hregisters.registered
  ready hregisters hready := hregisters.rooted hready
  register hscanner hready hname ctx hctx := Registers.nested hscanner ctx hready hname hctx
  record_use hscanner _ hleaves scope := .record_use hscanner _ _ hleaves scope true
  record_other hscanner _ scope attrs children := .record_other hscanner _ scope attrs children
  warn hscanner warnings := .recorded hscanner _ _ _ warnings

/-- A parser of files whose modules and imports identifiers name. -/
def Sources.Identified (sources : Sources) : Prop :=
  ∀ text items, sources.parse_file text = .ok items → ∀ item ∈ items,
    Named (fun ident => Segment ident.to_string)
      (fun u => ∀ leaf ∈ flatten_use u.tree [], Segments leaf.1) item

/-- A target of a workspace crate may be scanned. -/
theorem Registers.add_target {sources : Sources} (hsources : sources.Identified) (stack : Nat) {lib : String}
    (hscanner : Registered scanner) (hlib : lib ∈ scanner.workspace_crates)
    (hroot : TargetRoot lib root) (src : PathBuf) (scope : Scope) (known : BTreeSet) :
    Registers scanner (scanner.add_target sources stack root src scope known).1 := by
  have hknown := Registers.recorded hscanner (scanner.known.insert root known) scanner.refs scanner.edges
    scanner.warnings
  have hentered := Registers.register hknown.registered {
    module := root, file := src, child_dir := parent_dir src, scope }
    (hknown.registered.target lib hlib _ hroot) .root ⟨lib, hlib, hroot⟩
  exact hknown.trans ((registering root).walk_file sources hsources stack _ hknown.registered
    hentered)

end

end archlint.scan

namespace archlint.workspace

/-- The names of a workspace's targets that are no libraries: a kind that is not
the `r` of raw identifiers, and a name without a path separator. -/
structure LabelNames (metadata : Metadata) : Prop where
  kind : ∀ p ∈ metadata.packages, ∀ t ∈ p.targets, "r" ∉ t.kind
  name : ∀ p ∈ metadata.packages, ∀ t ∈ p.targets, CrateName t.name

section

variable {metadata : Metadata} {scanner : Scanner} {p : Package}

theorem LabelNames.root_module (hlabels : LabelNames metadata) (hnames : CargoNames metadata)
    (hp : p ∈ metadata.packages) {t : Target} (ht : t ∈ p.targets) :
    TargetRoot p.lib_name (t.root_module p.lib_name) := by
  unfold Target.root_module
  split
  · exact .library
  · have hkind : ∀ kind : String, ':' ∉ kind.toList → kind ≠ "r" →
        TargetRoot p.lib_name (child_path p.lib_name (kind ++ "#" ++ t.name)) := by
      intro kind hcolon hraw
      refine .labelled ?_ ⟨kind, t.name, rfl, hraw⟩
      have hname := hlabels.name p hp t ht
      simp only [CrateName, String.toList_append, List.mem_append, not_or] at hname ⊢
      exact ⟨⟨hcolon, by decide⟩, hname⟩
    cases hhead : t.kind.head? with
    | none => exact hkind "target" (by decide) (by decide)
    | some kind =>
      have hmem := List.mem_of_head? hhead
      dsimp only
      split
      · exact hkind "build" (by decide) (by decide)
      · exact hkind kind (hnames.kind p hp t ht kind hmem) fun hraw =>
          hlabels.kind p hp t ht (hraw ▸ hmem)

theorem registers_add_dependency (metadata : Metadata) (hscanner : Registered scanner) (p : Package)
    (dep : Dependency) : Registers scanner (add_dependency metadata p scanner dep) := by
  have hdeclared := Registers.recorded hscanner scanner.known scanner.refs
    (scanner.edges ++ [manifest_edge scanner p dep]) scanner.warnings
  unfold add_dependency
  dsimp only
  split
  · split
    · exact hdeclared
    · exact hdeclared.trans (.recorded hdeclared.registered _ _ _ _)
  · exact hdeclared

end

section

variable [Alphanumeric] {sources : Sources} {stack : Nat} {metadata : Metadata}
  {scanner after : Scanner} {p : Package}

theorem registers_add_targets (stack : Nat) (hsources : sources.Identified) (hlabels : LabelNames metadata)
    (hnames : CargoNames metadata) (hp : p ∈ metadata.packages) (hscanner : Registered scanner)
    (hlib : p.lib_name ∈ scanner.workspace_crates) (seen : BTreeSet) (targets : List Target)
    (htargets : targets ⊆ p.targets) :
    Registers scanner (add_targets sources stack p scanner seen targets).1 := by
  induction targets generalizing scanner seen with
  | nil => exact .refl hscanner
  | cons target targets ih =>
    obtain ⟨htarget, hrest⟩ := List.cons_subset.mp htargets
    unfold add_targets
    dsimp only
    split
    · exact ih hscanner hlib seen hrest
    · have hadded := Registers.add_target hsources stack hscanner hlib
        (hlabels.root_module hnames hp htarget) target.src_path target.scope p.known
      exact hadded.andThen fun _ =>
        ih hadded.registered (hadded.workspace_crates ▸ hlib) _ hrest

theorem registered_packages (hsources : sources.Identified) (hlabels : LabelNames metadata)
    (hnames : CargoNames metadata) (packages : List Package) (hpackages : packages ⊆ metadata.packages)
    (hscanner : Registered scanner)
    (hlibs : ∀ p ∈ metadata.packages, p.lib_name ∈ scanner.workspace_crates)
    (hscan : for_each (scan_package sources stack metadata) scanner packages = (after, .ok ())) :
    Registered after := by
  induction packages generalizing scanner with
  | nil =>
    obtain ⟨rfl, _⟩ := Prod.mk.inj hscan
    exact hscanner
  | cons p packages ih =>
    obtain ⟨hp, hrest⟩ := List.cons_subset.mp hpackages
    obtain ⟨middle, _, hfirst, hlater⟩ := andThen_eq_ok_iff.mp hscan
    obtain ⟨targets, _, htargets, hdeps⟩ := andThen_eq_ok_iff.mp hfirst
    obtain ⟨rfl, _⟩ := Prod.mk.inj hdeps
    have hadded := registers_add_targets stack hsources hlabels hnames hp hscanner (hlibs p hp) ∅
      p.targets (List.Subset.refl _)
    rw [htargets] at hadded
    have hentered := Registers.foldl (add_dependency metadata p) p.dependencies hadded.registered
      fun scanner hscanner dep _ => registers_add_dependency metadata hscanner p dep
    have hpackage := hadded.trans hentered
    exact ih hrest hpackage.registered (fun q hq => hpackage.workspace_crates ▸ hlibs q hq) hlater

/-- The scanner that `build_model` finishes is a registered one. -/
theorem registered_of_scan_workspace (hsources : sources.Identified) (hlabels : LabelNames metadata)
    (hnames : CargoNames metadata) (hscan : scan_workspace sources stack metadata = .ok scanner) :
    Registered scanner := by
  unfold scan_workspace at hscan
  obtain ⟨⟨last, _⟩, howned, rfl⟩ := Outcome.map_eq_ok_iff.mp hscan
  have hcrates := mem_add_workspace_crates metadata.packages (.new metadata.workspace_root)
  have hstart : Registered (metadata.packages.foldl (fun scanner package =>
      scanner.add_workspace_crate package.lib_name) (.new metadata.workspace_root)) := by
    refine List.foldlRecOn (motive := Registered) _ _ (.new _) fun scanner hscanner p hp => ?_
    exact hscanner.add_workspace_crate _ (hnames.lib_name hp)
  exact registered_packages hsources hlabels hnames metadata.packages (List.Subset.refl _) hstart
    (fun p hp => (hcrates p.lib_name).mpr (.inr ⟨p, hp, rfl⟩)) (owned_eq_ok_iff.mp howned)

/-- So each reference of a workspace lands at a module of its own crate, in a
crate that its path or an import of its crate names, or outside on such a path. -/
theorem lands_of_scan_workspace (hsources : sources.Identified) (hlabels : LabelNames metadata)
    (hnames : CargoNames metadata) (hscan : scan_workspace sources stack metadata = .ok scanner)
    {r : RawRef} (hsegs : Segments r.segs) {target : String}
    (htarget : scanner.ref_target r = some target) :
    Lands scanner (scanner.home_of r) r.segs target := by
  have hforest := (registered_of_scan_workspace hsources hlabels hnames hscan).forest
  cases hinfo : scanner.modules[r.module]? with
  | none =>
    rw [Scanner.ref_target, Scanner.resolve_of_unknown hinfo] at htarget
    cases htarget
  | some info => exact resolvesLand hforest hsegs 0 (Scanner.rooted_home_of hinfo) .written htarget

/-- And each import of a workspace stands for its path, if that is plain. -/
theorem stands_for_of_scan_workspace (hsources : sources.Identified) (hlabels : LabelNames metadata)
    (hnames : CargoNames metadata) (hscan : scan_workspace sources stack metadata = .ok scanner)
    {supers leading_colon : Bool} {module name : String} {path : List String}
    (himports : scanner.Imports module name path leading_colon)
    (hname : scanner.means module [name] false ≠ .deep)
    (hpath : scanner.means module path leading_colon ≠ .deep)
    (hplain : scanner.Plain supers module path leading_colon) :
    scanner.StandsFor supers module name path leading_colon :=
  himports.stands_for (registered_of_scan_workspace hsources hlabels hnames hscan) hname hpath hplain

end

end archlint.workspace
