import AngzarrRouter.Archlint.Scan.Crates

open text archlint.model archlint.syntax

namespace archlint.scan

/-- What a target that is no library is known by in its package: its kind and
its name. No identifier reads so: before its `#`, a raw one has an `r`. -/
def Label (name : String) : Prop := ∃ kind target, name = kind ++ "#" ++ target ∧ kind ≠ "r"

/-- A segment of a path as code writes it. -/
structure Segment (name : String) : Prop where
  crate_name : CrateName name
  unlabelled : ¬ Label name

/-- A path as code writes it. -/
def Segments (segs : List String) : Prop := ∀ seg ∈ segs, Segment seg

/-- The roots that the targets of a library's package have. -/
inductive TargetRoot (lib : String) : String → Prop where
  | library : TargetRoot lib lib
  | labelled {label : String} (hname : CrateName label) (hlabel : Label label) :
    TargetRoot lib (child_path lib label)

/-- The module paths of a target. -/
inductive Below (root : String) : String → Prop where
  | root : Below root root
  | child {path name : String} (hpath : Below root path) (hname : Segment name) :
    Below root (child_path path name)

section

variable {lib lib' root root' parent parent' path name name' : String} {rest segs : List String}

/-- A name of letters is a segment. -/
theorem segment_of_letters (hcolon : ':' ∉ name.toList) (hhash : '#' ∉ name.toList) : Segment name := by
  refine ⟨hcolon, ?_⟩
  rintro ⟨kind, target, rfl, _⟩
  exact hhash (by simp)

theorem segments_of_letters (hletters : ∀ seg ∈ segs, ':' ∉ seg.toList ∧ '#' ∉ seg.toList) :
    Segments segs :=
  fun seg hseg => segment_of_letters (hletters seg hseg).1 (hletters seg hseg).2

/-- A child's path splits into its parent's and its name. -/
theorem rsplit_once_child_path (parent : String) (hname : CrateName name) :
    rsplit_once "::" (child_path parent name) = some (parent, name) := by
  have hlast : split_last [':', ':'] (':' :: ':' :: name.toList) = some ([], name.toList) := by
    have hnone := split_last_of_not_mem [':'] hname
    have hsecond : ¬ [':', ':'] <+: ':' :: name.toList := by
      rintro ⟨back, hback⟩
      obtain hback := List.cons_inj_right _ |>.mp hback
      exact hname (hback ▸ List.mem_cons_self ..)
    rw [split_last, split_last, hnone]
    simp [hsecond]
  have hsplit := split_last_append parent.toList hlast
  have hletters : (child_path parent name).toList = parent.toList ++ ':' :: ':' :: name.toList := by
    simp [toList_child_path]
  rw [rsplit_once, hletters]
  exact Option.map_eq_some_iff.mpr ⟨_, hsplit, by simp⟩

/-- No two children have one path. -/
theorem child_path_inj (hname : CrateName name) (hname' : CrateName name')
    (heq : child_path parent name = child_path parent' name') : parent = parent' ∧ name = name' := by
  have hsplit := rsplit_once_child_path parent hname
  rw [heq, rsplit_once_child_path parent' hname'] at hsplit
  obtain ⟨rfl, rfl⟩ := by simpa using hsplit
  exact ⟨rfl, rfl⟩

/-- A child is no crate. -/
theorem not_crateName_child_path : ¬ CrateName (child_path parent name) := by
  simp [CrateName, toList_child_path]

/-- No target has its root where a module of another's is. -/
theorem TargetRoot.ne_child (hlib : CrateName lib) (hroot : TargetRoot lib root)
    (hname : Segment name) : root ≠ child_path parent name := by
  rintro rfl
  generalize hpath : child_path parent name = path at hroot
  cases hroot with
  | library => exact not_crateName_child_path (hpath ▸ hlib)
  | labelled hlabelled hlabel =>
    obtain ⟨_, rfl⟩ := child_path_inj hname.crate_name hlabelled hpath
    exact hname.unlabelled hlabel

/-- A module path is one target's. -/
theorem Below.unique (hlib : CrateName lib) (hroot : TargetRoot lib root) (hlib' : CrateName lib')
    (hroot' : TargetRoot lib' root') (hpath : Below root path) (hpath' : Below root' path) :
    root = root' := by
  induction hpath with
  | root =>
    cases hpath' with
    | root => rfl
    | child _ hname => exact absurd rfl (hroot.ne_child hlib hname)
  | child _ hname ih =>
    generalize hchild : child_path _ _ = path at hpath'
    cases hpath' with
    | root => exact absurd hchild.symm (hroot'.ne_child hlib' hname)
    | child hparent hname' =>
      obtain ⟨rfl, rfl⟩ := child_path_inj hname.crate_name hname'.crate_name hchild
      exact ih hparent

end

/-- A module that is in the table with the given root. -/
def Rooted (scanner : Scanner) (root path : String) : Prop :=
  ∃ info, scanner.modules[path]? = some info ∧ info.root = root

instance (scanner : Scanner) (root path : String) : Decidable (Rooted scanner root path) :=
  decidable_of_iff ((scanner.modules[path]?).map ModuleInfo.root = some root) Option.map_eq_some_iff

theorem Rooted.there {scanner : Scanner} {root path : String} (hrooted : Rooted scanner root path) :
    path ∈ scanner.modules := by
  obtain ⟨info, hinfo, _⟩ := hrooted
  exact mem_of_getElem? hinfo

/-- The scanners that `register` builds, of targets in the workspace's crates and
the modules nested in them, whatever those import. -/
inductive Registered : Scanner → Prop where
  | new (workspace_root : PathBuf) : Registered (.new workspace_root)
  | add_workspace_crate {scanner : Scanner} (hscanner : Registered scanner) (lib : String)
    (hlib : CrateName lib) : Registered (scanner.add_workspace_crate lib)
  | target {scanner : Scanner} (hscanner : Registered scanner) (lib : String)
    (hlib : lib ∈ scanner.workspace_crates) (ctx : Ctx) (hroot : TargetRoot lib ctx.module) :
    Registered (scanner.register ctx.module ctx)
  | nested {scanner : Scanner} (hscanner : Registered scanner) (root parent name : String)
    (hparent : Rooted scanner root parent) (hname : Segment name) (ctx : Ctx)
    (hctx : ctx.module = child_path parent name) : Registered (scanner.register root ctx)
  | add_alias {scanner : Scanner} (hscanner : Registered scanner) (module : String)
    (imported : Option String) (segs : List String) (hsegs : Segments segs) :
    Registered (scanner.add_alias module imported segs)
  | recorded {scanner : Scanner} (hscanner : Registered scanner) (known : BTreeMap BTreeSet)
    (refs : List RawRef) (edges : List Edge) (warnings : List String) :
    Registered { scanner with known, refs, edges, warnings }

/-- The leaves of a `use` item may be recorded. -/
theorem Registered.record_use {scanner : Scanner} (hscanner : Registered scanner) (ctx : Ctx)
    (u : ItemUse) (scope : Scope) (module_level : Bool)
    (hleaves : ∀ leaf ∈ flatten_use u.tree [], Segments leaf.1) :
    Registered (scanner.record_use ctx u scope module_level) := by
  refine List.foldlRecOn (motive := Registered) _ _ hscanner fun scanner hscanner leaf hleaf => ?_
  have haliased : Registered
      (if module_level then scanner.add_alias ctx.module leaf.2 leaf.1 else scanner) := by
    split
    · exact hscanner.add_alias _ _ _ (hleaves leaf hleaf)
    · exact hscanner
  exact haliased.recorded _ _ _ _

/-- What holds of a module's entry in the table of a registered scanner. -/
structure Entry (scanner : Scanner) (path : String) (info : ModuleInfo) : Prop where
  target : ∃ lib ∈ scanner.workspace_crates, TargetRoot lib info.root
  below : Below info.root path
  root : info.root ∈ scanner.modules
  parent : ∀ parent name, path = child_path parent name → Segment name → parent ∈ scanner.modules
  children : ∀ name ∈ info.children, child_path path name ∈ scanner.modules
  aliases : ∀ (name : String) (segs : List String), info.aliases[name]? = some segs → Segments segs

/-- The table of a registered scanner is a tree for each target. -/
structure Forest (scanner : Scanner) : Prop where
  crates : ∀ lib ∈ scanner.workspace_crates, CrateName lib
  entry : ∀ {path : String} {info : ModuleInfo}, scanner.modules[path]? = some info →
    Entry scanner path info

section

variable {scanner : Scanner} {path name : String} {info : ModuleInfo}

/-- An entry is none the worse for more modules and crates. -/
theorem Entry.mono {after : Scanner} (hentry : Entry scanner path info)
    (hcrates : ∀ lib ∈ scanner.workspace_crates, lib ∈ after.workspace_crates)
    (hmodules : ∀ path ∈ scanner.modules, path ∈ after.modules) : Entry after path info where
  target := by
    obtain ⟨lib, hlib, hroot⟩ := hentry.target
    exact ⟨lib, hcrates lib hlib, hroot⟩
  below := hentry.below
  root := hmodules _ hentry.root
  parent parent name hpath hname := hmodules _ (hentry.parent parent name hpath hname)
  children name hname := hmodules _ (hentry.children name hname)
  aliases := hentry.aliases

/-- An entry stays right where other modules are entered. -/
theorem Entry.insert (hentry : Entry scanner path info) (other : String) (found : ModuleInfo) :
    Entry { scanner with modules := scanner.modules.insert other found } path info :=
  hentry.mono (fun _ hlib => hlib) fun _ hpath => Std.ExtTreeMap.mem_insert.mpr (.inr hpath)

/-- A module may be entered in the table, or changed there, if its entry is as
it should be with the module there. -/
theorem Forest.insert (hforest : Forest scanner)
    (hentry : Entry { scanner with modules := scanner.modules.insert path info } path info) :
    Forest { scanner with modules := scanner.modules.insert path info } := by
  refine ⟨hforest.crates, fun {other found} hfound => ?_⟩
  rw [Std.ExtTreeMap.getElem?_insert] at hfound
  split at hfound
  · rename_i heq
    obtain rfl := Std.LawfulEqOrd.eq_of_compare heq
    obtain rfl := Option.some.inj hfound
    exact hentry
  · exact (hforest.entry hfound).insert ..

/-- A module that is there may be adopted. -/
theorem Forest.adopt (hforest : Forest scanner) {parent : String}
    (hchild : child_path parent name ∈ scanner.modules) : Forest (scanner.adopt parent name) := by
  unfold Scanner.adopt
  split
  · rename_i p hp
    refine hforest.insert { (hforest.entry hp).insert parent _ with children := ?_ }
    intro other hother
    obtain heq | hother := Std.ExtTreeSet.mem_insert.mp hother
    · obtain rfl := Std.LawfulEqOrd.eq_of_compare heq
      exact Std.ExtTreeMap.mem_insert.mpr (.inr hchild)
    · exact Std.ExtTreeMap.mem_insert.mpr (.inr ((hforest.entry hp).children other hother))
  · exact hforest

/-- A module whose parent is in the table may be entered there with its parent's
root, and a target's root with itself. -/
theorem Forest.enter (hforest : Forest scanner) {root : String} {ctx : Ctx}
    (htarget : ∃ lib ∈ scanner.workspace_crates, TargetRoot lib root) (hbelow : Below root ctx.module)
    (hroot : root = ctx.module ∨ root ∈ scanner.modules)
    (hparent : ∀ parent name, ctx.module = child_path parent name → Segment name →
      parent ∈ scanner.modules) : Forest (scanner.enter root ctx) := by
  have hkept : ∀ {other}, other ∈ scanner.modules → other ∈ (scanner.enter root ctx).modules :=
    fun hother => Std.ExtTreeMap.mem_insert.mpr (.inr hother)
  have hfound : ∀ info, (scanner.modules[ctx.module]?).getD .default = info →
      (∀ name ∈ info.children, child_path ctx.module name ∈ scanner.modules) ∧
        ∀ (name : String) (segs : List String), info.aliases[name]? = some segs → Segments segs := by
    intro info hinfo
    cases hold : scanner.modules[ctx.module]? with
    | some old =>
      obtain rfl : old = info := by simpa [hold] using hinfo
      exact ⟨(hforest.entry hold).children, (hforest.entry hold).aliases⟩
    | none =>
      obtain rfl : ModuleInfo.default = info := by simpa [hold] using hinfo
      exact ⟨fun name hname => absurd hname Std.ExtTreeSet.not_mem_empty,
        fun name segs halias => absurd halias (by simp [ModuleInfo.default])⟩
  obtain ⟨hchildren, haliases⟩ := hfound _ rfl
  refine hforest.insert ⟨htarget, hbelow, ?_, ?_, ?_, haliases⟩
  · obtain rfl | hroot := hroot
    · exact Std.ExtTreeMap.mem_insert_self
    · exact hkept hroot
  · exact fun parent name hpath hname => hkept (hparent parent name hpath hname)
  · exact fun name hname => hkept (hchildren name hname)

/-- A module may be registered under one that is there. -/
theorem Forest.register (hforest : Forest scanner) {root : String} {ctx : Ctx}
    (htarget : ∃ lib ∈ scanner.workspace_crates, TargetRoot lib root) (hbelow : Below root ctx.module)
    (hroot : root = ctx.module ∨ root ∈ scanner.modules)
    (hparent : ∀ parent name, ctx.module = child_path parent name → Segment name →
      parent ∈ scanner.modules) : Forest (scanner.register root ctx) := by
  have hentered := hforest.enter htarget hbelow hroot hparent
  have hthere : ctx.module ∈ (scanner.enter root ctx).modules := Std.ExtTreeMap.mem_insert_self
  unfold Scanner.register
  split
  · rename_i hsplit
    exact hentered.adopt (rsplit_once_eq_some hsplit ▸ hthere)
  · exact hentered

/-- What is registered is a forest of modules. -/
theorem Registered.forest (hscanner : Registered scanner) : Forest scanner := by
  induction hscanner with
  | new workspace_root =>
    refine ⟨fun lib hlib => ?_, fun hinfo => ?_⟩
    · exact absurd hlib Std.ExtTreeSet.not_mem_empty
    · exact absurd hinfo (by simp [Scanner.new])
  | add_workspace_crate _ lib hlib ih =>
    refine ⟨fun other hother => ?_, fun hinfo => ?_⟩
    · obtain heq | hother := Std.ExtTreeSet.mem_insert.mp hother
      · obtain rfl := Std.LawfulEqOrd.eq_of_compare heq
        exact hlib
      · exact ih.crates other hother
    · exact (ih.entry hinfo).mono (fun _ hlib => Std.ExtTreeSet.mem_insert.mpr (.inr hlib))
        fun _ hpath => hpath
  | target _ lib hlib ctx hroot ih =>
    refine ih.register ⟨lib, hlib, hroot⟩ .root (.inl rfl) fun parent name hpath hname => ?_
    exact absurd hpath (hroot.ne_child (ih.crates lib hlib) hname)
  | nested _ root parent name hparent hname ctx hctx ih =>
    obtain ⟨info, hinfo, rfl⟩ := hparent
    have hentry := ih.entry hinfo
    refine ih.register hentry.target (hctx ▸ hentry.below.child hname) (.inr hentry.root) ?_
    intro parent' name' hpath hname'
    obtain ⟨rfl, _⟩ := child_path_inj hname.crate_name hname'.crate_name (hctx.symm.trans hpath)
    exact mem_of_getElem? hinfo
  | add_alias _ module imported segs hsegs ih =>
    unfold Scanner.add_alias
    split
    · rename_i imported info hinfo
      refine ih.insert { (ih.entry hinfo).insert module _ with aliases := ?_ }
      intro name path halias
      rw [Std.ExtTreeMap.getElem?_insert] at halias
      split at halias
      · exact Option.some.inj halias ▸ hsegs
      · exact (ih.entry hinfo).aliases name path halias
    · exact ih
  | recorded _ known refs edges warnings ih =>
    exact ⟨ih.crates, fun hinfo => (ih.entry hinfo).mono (fun _ hlib => hlib) fun _ hpath => hpath⟩

/-- Where a module path of a target is in the table, its root is that target's. -/
theorem Forest.root_eq (hforest : Forest scanner) {root : String}
    (hinfo : scanner.modules[path]? = some info) (hbelow : Below root path)
    (htarget : ∃ lib ∈ scanner.workspace_crates, TargetRoot lib root) : info.root = root := by
  have hentry := hforest.entry hinfo
  obtain ⟨lib, hlib, hroot⟩ := hentry.target
  obtain ⟨lib', hlib', hroot'⟩ := htarget
  exact hentry.below.unique (hforest.crates lib hlib) hroot (hforest.crates lib' hlib') hroot' hbelow

/-- Modules below one root have that root. -/
theorem Forest.rooted (hforest : Forest scanner) (hinfo : scanner.modules[path]? = some info)
    {other : String} (hother : other ∈ scanner.modules) (hbelow : Below info.root other) :
    Rooted scanner info.root other := by
  obtain ⟨found, hfound⟩ := exists_of_mem hother
  exact ⟨found, hfound, hforest.root_eq hfound hbelow (hforest.entry hinfo).target⟩

theorem Forest.root (hforest : Forest scanner) (hinfo : scanner.modules[path]? = some info) :
    Rooted scanner info.root info.root :=
  hforest.rooted hinfo (hforest.entry hinfo).root .root

/-- A child has its parent's root. -/
theorem Forest.child (hforest : Forest scanner) (hinfo : scanner.modules[path]? = some info)
    (hname : Segment name) (hchild : name ∈ info.children) :
    Rooted scanner info.root (child_path path name) :=
  hforest.rooted hinfo ((hforest.entry hinfo).children name hchild)
    ((hforest.entry hinfo).below.child hname)

/-- `super` leads to a module of the target. -/
theorem Forest.parent (hforest : Forest scanner) (hinfo : scanner.modules[path]? = some info) :
    Rooted scanner info.root (parent_of path info.root) := by
  have hentry := hforest.entry hinfo
  have hbelow := hentry.below
  unfold parent_of
  split
  · exact hforest.root hinfo
  · rename_i hother
    generalize hroot : info.root = root at hbelow hother
    cases hbelow with
    | root => exact absurd rfl hother
    | @child parent name hparent hname =>
      rw [rsplit_once_child_path parent hname.crate_name]
      dsimp only
      rw [← hroot] at hparent ⊢
      exact hforest.rooted hinfo (hentry.parent parent name rfl hname) hparent

theorem scanned_iff : (scanner.workspace_crates.contains name && scanner.modules.contains name) = true ↔
    name ∈ scanner.workspace_crates ∧ name ∈ scanner.modules := by
  rw [Bool.and_eq_true, Std.ExtTreeSet.contains_iff_mem, Std.ExtTreeMap.contains_iff_mem]

/-- A path out of the workspace: it begins in a crate that is not scanned. -/
structure Outside (scanner : Scanner) (name : String) (rest : List String) : Prop where
  unscanned : ¬ (name ∈ scanner.workspace_crates ∧ name ∈ scanner.modules)
  first : Segment name
  others : Segments rest

theorem below_join {lib root : String} {rest : List String} (hlib : CrateName lib)
    (hroot : TargetRoot lib root) (hname : Segment name) (hrest : Segments rest)
    (hbelow : Below root (join name rest)) : lib = name ∧ root = name := by
  induction rest using List.reverseRecOn with
  | nil =>
    rw [join_nil] at hbelow
    cases hbelow with
    | root =>
      cases hroot with
      | library => exact ⟨rfl, rfl⟩
      | labelled _ _ => exact absurd hname.crate_name not_crateName_child_path
    | child _ _ => exact absurd hname.crate_name not_crateName_child_path
  | append_singleton rest seg ih =>
    obtain ⟨hfront, hseg⟩ := List.forall_mem_append.mp hrest
    have hseg := hseg seg (List.mem_singleton_self _)
    have hjoin : join name (rest ++ [seg]) = child_path (join name rest) seg := by
      rw [← join_append, join_cons, join_nil]
    generalize hpath : join name (rest ++ [seg]) = path at hbelow
    cases hbelow with
    | root => exact absurd (hpath.symm.trans hjoin) (hroot.ne_child hlib hseg)
    | child hparent hname' =>
      obtain ⟨rfl, rfl⟩ := child_path_inj hname'.crate_name hseg.crate_name (hpath.symm.trans hjoin)
      exact ih hfront hparent

/-- No module of the table has a path that leads out of the workspace. -/
theorem Forest.not_mem_of_outside (hforest : Forest scanner) {rest : List String}
    (houtside : Outside scanner name rest) : join name rest ∉ scanner.modules := by
  intro hthere
  obtain ⟨info, hinfo⟩ := exists_of_mem hthere
  have hentry := hforest.entry hinfo
  obtain ⟨lib, hlib, hroot⟩ := hentry.target
  obtain ⟨rfl, hroot⟩ :=
    below_join (hforest.crates lib hlib) hroot houtside.first houtside.others hentry.below
  exact houtside.unscanned ⟨hlib, hroot ▸ hentry.root⟩

end

end archlint.scan
