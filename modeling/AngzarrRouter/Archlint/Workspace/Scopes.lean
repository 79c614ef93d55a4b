import AngzarrRouter.Archlint.Cfg
import AngzarrRouter.Archlint.Workspace.Written

open calls
open text archlint.model archlint.scan archlint.syntax

namespace archlint.scan

/-- What scanning enters, in a scope, for what the code of a module names. -/
def Ctx.finding (workspace_root : PathBuf) (ctx : Ctx) (scope : Scope) : Mention → Finding
  | .Path segs leading_colon line => .Ref (path_ref ctx scope segs leading_colon line)
  | .File line lit => .Edge (include_edge workspace_root ctx scope line lit)

/-- The gate, to a collector of files. -/
def Gate.unread (gate : Gate) : Gate := { gate with read := false }

section

variable [Alphanumeric]

mutual

/-- What an item of a module names, in it or in a module that lies in it, under
all the attributes that are around it there, the outermost first. -/
inductive Lies (sources : Sources) : Ctx → Item → List Gate → Ctx → Mention → Prop where
  | imports {ctx : Ctx} {u : ItemUse} {segs : List String} {imported : Option String}
    (hleaf : (segs, imported) ∈ flatten_use u.tree []) :
    Lies sources ctx (.Use u) [⟨u.attrs, true⟩] ctx (.Path segs u.leading_colon u.line)
  | path {ctx : Ctx} {attrs : List Attribute} {children : List Node} {gates : List Gate}
    {segs : List String} {leading_colon : Bool} {line : Nat}
    (hpath : Mentions (.Item attrs children) gates (.Path segs leading_colon line)) :
    Lies sources ctx (.Other attrs children) gates ctx (.Path segs leading_colon line)
  -- Of the attributes around a file's name, only the item's own are read.
  | file {ctx : Ctx} {attrs : List Attribute} {children : List Node} {outer : Gate}
    {gates : List Gate} {line : Nat} {lit : String}
    (hfile : Mentions (.Item attrs children) (outer :: gates) (.File line lit)) :
    Lies sources ctx (.Other attrs children) (outer :: gates.map Gate.unread) ctx (.File line lit)
  | inline {ctx here : Ctx} {attrs : List Attribute} {ident : Ident} {items : List Item}
    {item : Item} {gates : List Gate} {mention : Mention} (hitem : item ∈ items)
    (hinside : Lies sources (ctx.inline attrs ident) item gates here mention) :
    Lies sources ctx (.Mod attrs ident (some items)) (⟨attrs, true⟩ :: gates) here mention
  | declared {ctx here : Ctx} {attrs : List Attribute} {ident : Ident} {found : PathBuf × PathBuf}
    {gates : List Gate} {mention : Mention}
    (hfile : Scanner.mod_file sources ctx ident.to_string attrs = some found)
    (hinside : FileLies sources (ctx.declared attrs ident found) gates here mention) :
    Lies sources ctx (.Mod attrs ident none) (⟨attrs, true⟩ :: gates) here mention

/-- What the file of a module names. Its inner attributes are around all of it,
and nothing reads them. -/
inductive FileLies (sources : Sources) : Ctx → List Gate → Ctx → Mention → Prop where
  | item {ctx here : Ctx} {source : String} {items : List Item} {item : Item} {gates : List Gate}
    {mention : Mention} (hread : sources.read ctx.file = some source)
    (hparse : sources.parse_file source = .ok items) (hitem : item ∈ items)
    (hinside : Lies sources ctx item gates here mention) :
    FileLies sources ctx (⟨sources.file_attrs source, false⟩ :: gates) here mention

end

theorem gated_map_unread (scope : Scope) (gates : List Gate) :
    gated scope (gates.map Gate.unread) = scope := by
  induction gates with
  | nil => rfl
  | cons gate gates ih =>
    rw [List.map_cons, Gate.unread, gated_unread, ih]

/-- Code is in a test's scope where it starts in one, or an attribute that is
read gates it so. -/
theorem gated_eq_test_iff {scope : Scope} {gates : List Gate} : gated scope gates = .Test ↔
    scope = .Test ∨ ∃ gate ∈ gates, gate.read = true ∧ is_cfg_test gate.attrs = true := by
  unfold gated
  split
  · rename_i hgates
    refine iff_of_true rfl (.inr ?_)
    simpa using hgates
  · rename_i hgates
    refine (or_iff_left fun hsome => hgates ?_).symm
    simpa using hsome

section

variable {sources : Sources} {workspace_root : PathBuf} {ctx here : Ctx} {item : Item}
  {gates : List Gate} {mention : Mention}

mutual

/-- What lies in an item is entered, in the scope that the attributes which
are read around it make. -/
theorem Lies.writes {ctx here : Ctx} {item : Item} {gates : List Gate} {mention : Mention} :
    Lies sources ctx item gates here mention →
      Writes sources workspace_root ctx item
        (here.finding workspace_root (gated ctx.scope gates) mention)
  | .imports hleaf => by
    rw [gated_read, gated_nil]
    exact .imports hleaf
  | .path hpath => .path hpath
  | .file hfile => by
    cases hfile with
    | item hnode hinside =>
      rw [gated_read, gated_map_unread]
      exact .file (.item hnode hinside)
  | .inline hitem hinside => by
    rw [gated_read]
    exact .inline hitem hinside.writes
  | .declared hfile hinside => by
    rw [gated_read]
    exact .declared hfile hinside.writes

theorem FileLies.writes {ctx here : Ctx} {gates : List Gate} {mention : Mention} :
    FileLies sources ctx gates here mention →
      FileWrites sources workspace_root ctx
        (here.finding workspace_root (gated ctx.scope gates) mention)
  | .item hread hparse hitem hinside => by
    rw [gated_unread]
    exact .item hread hparse hitem hinside.writes

end

mutual

/-- And a reference that is entered lies somewhere, under attributes of which
those that are read make its scope. -/
theorem Writes.lies {ctx : Ctx} {item : Item} {finding : Finding} {r : RawRef} :
    Writes sources workspace_root ctx item finding → finding = .Ref r →
      ∃ gates here segs leading_colon line,
        Lies sources ctx item gates here (.Path segs leading_colon line) ∧
          r = path_ref here (gated ctx.scope gates) segs leading_colon line
  | .imports hleaf, hr => by
    obtain rfl := Finding.Ref.inj hr
    refine ⟨_, _, _, _, _, .imports hleaf, ?_⟩
    rw [gated_read, gated_nil]
    rfl
  | .path hpath, hr => by
    obtain rfl := Finding.Ref.inj hr
    exact ⟨_, _, _, _, _, .path hpath, rfl⟩
  | .file _, hr => by cases hr
  | .missing _, hr => by cases hr
  | .inline_module, hr => by cases hr
  | .inline hitem hinside, hr => by
    obtain ⟨gates, here, segs, leading_colon, line, hlies, rfl⟩ := hinside.lies hr
    refine ⟨_, here, segs, leading_colon, line, .inline hitem hlies, ?_⟩
    rw [gated_read]
    rfl
  | .declared hfile hinside, hr => by
    obtain ⟨gates, here, segs, leading_colon, line, hlies, rfl⟩ := hinside.lies hr
    refine ⟨_, here, segs, leading_colon, line, .declared hfile hlies, ?_⟩
    rw [gated_read]
    rfl

theorem FileWrites.lies {ctx : Ctx} {finding : Finding} {r : RawRef} :
    FileWrites sources workspace_root ctx finding → finding = .Ref r →
      ∃ gates here segs leading_colon line,
        FileLies sources ctx gates here (.Path segs leading_colon line) ∧
          r = path_ref here (gated ctx.scope gates) segs leading_colon line
  | .module, hr => by cases hr
  | .item hread hparse hitem hinside, hr => by
    obtain ⟨gates, here, segs, leading_colon, line, hlies, rfl⟩ := hinside.lies hr
    refine ⟨_, here, segs, leading_colon, line, .item hread hparse hitem hlies, ?_⟩
    rw [gated_unread]

end

end

/-- The attributes around a place hold some predicates, of a shape that their
words tell, and none where they are not read. -/
structure GatedBy (gates : List Gate) (cfgs : List Cfg) : Prop where
  holds : Gates (gates.flatMap Gate.attrs) cfgs
  told : Told cfgs
  unread : ∀ gate ∈ gates, gate.read = false → ∀ a ∈ gate.attrs, a.ident ≠ some "cfg"

/-- Attributes gate code on `test` together where those at one place do. -/
theorem is_cfg_test_flatMap (gates : List Gate) :
    is_cfg_test (gates.flatMap Gate.attrs) = true ↔
      ∃ gate ∈ gates, is_cfg_test gate.attrs = true := by
  simp only [is_cfg_test, List.any_flatMap, List.any_eq_true]

/-- Under such attributes, code is in a test's scope just where it starts in one
or its predicates require the flag `test`. -/
theorem GatedBy.gated_eq_test_iff {gates : List Gate} {cfgs : List Cfg}
    (hgated : GatedBy gates cfgs) (scope : Scope) :
    gated scope gates = .Test ↔ scope = .Test ∨ RequiresTest cfgs := by
  rw [scan.gated_eq_test_iff, ← hgated.told.is_cfg_test_iff hgated.holds, is_cfg_test_flatMap]
  refine or_congr_right (exists_congr fun gate => and_congr_right fun hgate =>
    and_iff_right_of_imp fun htest => ?_)
  by_contra hunread
  obtain ⟨a, ha, hcfg⟩ := List.any_eq_true.mp htest
  obtain ⟨hident, _⟩ := Bool.and_eq_true_iff.mp hcfg
  exact hgated.unread gate hgate (Bool.eq_false_iff.mpr hunread) a ha (eq_of_beq hident)

end

end archlint.scan

namespace archlint.workspace

section

variable [Alphanumeric] {sources : Sources} {stack : Nat} {metadata : Metadata} {scanner : Scanner}

/-- A `cfg` gate is a test's scope exactly when it requires `test`, where its
predicates are of a shape that their words tell; they have to be, where they
hold no `not` and some build meets them. And so it is with what a scan finds:
all that the code of a target names is recorded, and no reference else, in a
test's scope just where the target is one or the predicates of all the
attributes around the place require `test`, if those are of such a shape and
none is where no attribute is read. -/
theorem scopes_require_test (hscan : scan_workspace sources stack metadata = .ok scanner) :
    (∀ attrs cfgs, Gates attrs cfgs → Told cfgs → (is_cfg_test attrs = true ↔ RequiresTest cfgs)) ∧
    (∀ attrs cfgs, Gates attrs cfgs → (∀ cfg ∈ cfgs, "not" ∉ cfg_words cfg) →
      (∃ build : Setting → Bool, ∀ cfg ∈ cfgs, cfg.holds (build ∘ Leaf.setting) = true) →
      (is_cfg_test attrs = true ↔ RequiresTest cfgs) → Told cfgs) ∧
    (∀ p ∈ metadata.packages, ∀ t, FirstOfRoot p.lib_name p.targets t → ∀ gates here mention,
      FileLies sources (t.ctx p.lib_name) gates here mention → ∃ scope,
        scanner.Has (here.finding metadata.workspace_root scope mention) ∧
        ∀ cfgs, GatedBy gates cfgs → (scope = .Test ↔ t.scope = .Test ∨ RequiresTest cfgs)) ∧
    ∀ r ∈ scanner.refs, ∃ p ∈ metadata.packages, ∃ t, FirstOfRoot p.lib_name p.targets t ∧
      ∃ gates here segs leading_colon line,
        FileLies sources (t.ctx p.lib_name) gates here (.Path segs leading_colon line) ∧
        r = path_ref here r.scope segs leading_colon line ∧
        ∀ cfgs, GatedBy gates cfgs → (r.scope = .Test ↔ t.scope = .Test ∨ RequiresTest cfgs) := by
  have hhas := has_iff_of_scan_workspace hscan
  refine ⟨fun attrs cfgs hgates htold => htold.is_cfg_test_iff hgates, ?_, ?_, fun r hr => ?_⟩
  · rintro attrs cfgs hgates hplain ⟨build, hmet⟩ htells
    exact told_of_is_cfg_test_iff hgates hplain hmet htells
  · intro p hp t hfirst gates here mention hlies
    refine ⟨gated t.scope gates, (hhas _).mpr (.target hp hfirst hlies.writes),
      fun cfgs hgated => hgated.gated_eq_test_iff t.scope⟩
  · cases (hhas (.Ref r)).mp hr with
    | @target p t _ hp hfirst hinside =>
      obtain ⟨gates, here, segs, leading_colon, line, hlies, rfl⟩ := hinside.lies rfl
      exact ⟨p, hp, t, hfirst, gates, here, segs, leading_colon, line, hlies, rfl,
        fun cfgs hgated => hgated.gated_eq_test_iff t.scope⟩
    | manifest _ _ hdeclares => cases hdeclares

end

section

/-- The shop's tests, for builds with a feature as well. -/
def shelf.featured : Sources :=
  shelf.sources [
    ("/shop/src/lib.rs", "#[cfg(all(test, feature = \"x\"))]\nmod tests \x7b\n    use shelf::*;\n\x7d\n",
      [shelf.tests (ascii.gate "all (test , feature = \"x\")")]),
    ("/shop/shelf/src/lib.rs", "", [])]

theorem scopes_require_test_shelf : ∃ scanner,
    scan_workspace shelf.featured 1 (shelf.metadata none) = .ok scanner ∧
      ∃ r, scanner.Has (.Ref r) ∧ r.segs = ["shelf"] ∧ r.scope = .Test := by
  obtain ⟨scanner, hscan⟩ : ∃ scanner,
    scan_workspace shelf.featured 1 (shelf.metadata none) = .ok scanner := ⟨_, rfl⟩
  obtain ⟨htells, _, hrecorded, _⟩ := scopes_require_test hscan
  have hgates : Gates (ascii.gate "all (test , feature = \"x\")" ++ [])
      [.all [ascii.test_only, ascii.feature "x"]] := ascii.gates_all
  have htold : Told [.all [ascii.test_only, ascii.feature "x"]] :=
    .gated (List.mem_singleton_self _) (by decide) (by decide) (by decide)
  have hrequires := (htells _ _ ascii.gates_all htold).mp (by decide)
  have hshop : shelf.shop none ∈ (shelf.metadata none).packages := by simp [shelf.metadata]
  obtain ⟨scope, hhas, hscope⟩ := hrecorded _ hshop _ ⟨[], [], rfl, by simp⟩ _ _ _
    (.item (by rfl) (by rfl) (List.mem_singleton_self _)
      (.inline (List.mem_singleton_self _) (.imports (List.mem_singleton_self _))))
  refine ⟨scanner, hscan, _, hhas, rfl, (hscope _ ⟨hgates, htold, ?_⟩).mpr (.inr hrequires)⟩
  simp [shelf.featured, shelf.sources]

end

end archlint.workspace
