import AngzarrRouter.Archlint.Scan.Crates
import AngzarrRouter.Archlint.Scan.Walking

open calls calls.MutCall
open text archlint.model archlint.syntax

namespace archlint.scan

/-- A module path lies in one of the given crates, and its root in the same. -/
def Located (libs : String → Prop) (root path : String) : Prop :=
  ∃ lib, libs lib ∧ InCrate lib root ∧ InCrate lib path

/-- A child lies where its parent does. -/
theorem Located.child {libs : String → Prop} {root path : String} (hlocated : Located libs root path)
    (ident : Ident) : Located libs root (child_path path ident.to_string) := by
  obtain ⟨lib, hlib, hroot, hpath⟩ := hlocated
  exact ⟨lib, hlib, hroot, hpath.child (begins_ident ident)⟩

/-- What holds of a scanner that has only scanned targets of the given crates:
every module lies in one of them together with its root, the children of a
module are modules, and what was referenced was referenced from a module. -/
structure Scanned (libs : String → Prop) (scanner : Scanner) : Prop where
  located : ∀ {path info}, scanner.modules[path]? = some info → Located libs info.root path
  children : ∀ {path info name}, scanner.modules[path]? = some info → name ∈ info.children →
    child_path path name ∈ scanner.modules
  written : ∀ {r}, r ∈ scanner.refs → r.module ∈ scanner.modules

/-- A scanner loses no module and no edge, and keeps its workspace. -/
structure Grows (before after : Scanner) : Prop where
  workspace_crates : after.workspace_crates = before.workspace_crates
  workspace_root : after.workspace_root = before.workspace_root
  modules : ∀ {path}, path ∈ before.modules → path ∈ after.modules
  edges : before.edges ⊆ after.edges

theorem Grows.refl (scanner : Scanner) : Grows scanner scanner :=
  ⟨rfl, rfl, fun hpath => hpath, fun _ hedge => hedge⟩

/-- A table that grows twice has grown. -/
theorem Grows.trans {a b c : Scanner} (hab : Grows a b) (hbc : Grows b c) : Grows a c where
  workspace_crates := hbc.workspace_crates.trans hab.workspace_crates
  workspace_root := hbc.workspace_root.trans hab.workspace_root
  modules hpath := hbc.modules (hab.modules hpath)
  edges _ hedge := hbc.edges (hab.edges hedge)

/-- What a scanner becomes, scanning on. -/
structure Scans (libs : String → Prop) (before after : Scanner) : Prop where
  scanned : Scanned libs after
  grows : Grows before after

section

variable {libs : String → Prop} {scanner before after : Scanner}

theorem Scans.refl (hscanned : Scanned libs scanner) : Scans libs scanner scanner :=
  ⟨hscanned, .refl scanner⟩

/-- Scanning on is scanning. -/
theorem Scans.trans {middle : Scanner} (hfirst : Scans libs before middle)
    (hrest : Scans libs middle after) : Scans libs before after :=
  ⟨hrest.scanned, hfirst.grows.trans hrest.grows⟩

/-- A call scans on where what it does and what follows it do. -/
theorem Scans.andThen {α β : Type} {call : MutCall Scanner String α}
    {next : Scanner → α → MutCall Scanner String β} (hcall : Scans libs before call.1)
    (hnext : ∀ value, Scanned libs call.1 → Grows before call.1 →
      Scans libs call.1 (next call.1 value).1) :
    Scans libs before (call.andThen next).1 := by
  obtain ⟨left, value | error | _⟩ := call
  · exact hcall.trans (hnext value hcall.scanned hcall.grows)
  · exact hcall
  · exact hcall

/-- A loop scans on where its body does. -/
theorem Scans.foldl {α : Type} (body : Scanner → α → Scanner) (items : List α)
    (hscanned : Scanned libs before)
    (hbody : ∀ scanner, Scanned libs scanner → Grows before scanner → ∀ item ∈ items,
      Scans libs scanner (body scanner item)) :
    Scans libs before (items.foldl body before) := by
  induction items generalizing before with
  | nil => exact .refl hscanned
  | cons item items ih =>
    have hfirst := hbody before hscanned (.refl before) item (List.mem_cons_self ..)
    have hrest := ih hfirst.scanned fun scanner hscanner hgrows item hitem =>
      hbody scanner hscanner (hfirst.grows.trans hgrows) item (List.mem_cons_of_mem _ hitem)
    exact hfirst.trans hrest

variable {root : String} {ctx : Ctx}

end

/-- A collector of what is referenced inside one module's item. -/
structure Collector.Of (module : String) (c : Collector) : Prop where
  ctx : c.ctx.module = module
  refs : ∀ r ∈ c.refs, r.module = module

section

variable {module : String} {c : Collector}

theorem Collector.Of.push (hof : c.Of module) (segs : List String) (leading_colon : Bool)
    (line : Nat) : (c.push segs leading_colon line).Of module := by
  refine ⟨hof.ctx, fun r hr => ?_⟩
  obtain hold | hnew := List.mem_append.mp hr
  · exact hof.refs r hold
  · rw [List.mem_singleton.mp hnew]
    exact hof.ctx

/-- What a collector pushes is its module's. -/
theorem Collector.Of.push_path (hof : c.Of module) (segments : List Ident)
    (leading_colon : Bool) (line : Nat) : (c.push_path segments leading_colon line).Of module := by
  unfold Collector.push_path
  split
  · exact hof.push ..
  · exact hof

theorem Collector.Of.visit_item_use (hof : c.Of module) (u : ItemUse) :
    (c.visit_item_use u).Of module := by
  unfold Collector.visit_item_use
  refine List.foldlRecOn (motive := Collector.Of module) _ _ hof fun c hof leaf _ => ?_
  exact hof.push ..

theorem Collector.Of.push_include (hof : c.Of module) (segments : List Ident) (line : Nat)
    (literal : Option String) : (c.push_include segments line literal).Of module := by
  unfold Collector.push_include
  dsimp only
  split
  · exact ⟨hof.ctx, hof.refs⟩
  · exact hof

variable [Alphanumeric]

/-- Attributes change nothing of that. -/
theorem Collector.Of.with_attrs (hof : c.Of module) (attrs : List Attribute)
    {f : Collector → Collector} (hf : ∀ {c : Collector}, c.Of module → (f c).Of module) :
    (c.with_attrs attrs f).Of module := by
  obtain ⟨hctx, hrefs⟩ := hf (c := { c with
    scopes := (if is_cfg_test attrs then .Test else c.scope) :: c.scopes })
    ⟨hof.ctx, hof.refs⟩
  exact ⟨hctx, hrefs⟩

mutual

/-- A visit collects references of its own module. -/
theorem Collector.Of.visit {c : Collector} (hof : c.Of module) :
    ∀ node, (c.visit node).Of module
  | .Path segments leading_colon line arguments =>
    Collector.Of.visit_all (hof.push_path segments leading_colon line) arguments
  | .ItemUse u => hof.visit_item_use u
  | .ItemMod _ => hof
  | .Item attrs children => hof.with_attrs attrs fun hof => Collector.Of.visit_all hof children
  | .ImplItem attrs children => hof.with_attrs attrs fun hof => Collector.Of.visit_all hof children
  | .Macro segments leading_colon line arguments literal false _ =>
    Collector.Of.visit_all ((hof.push_include segments line literal).push_path segments
      leading_colon line) arguments
  | .Macro segments leading_colon line arguments literal true body =>
    Collector.Of.visit_all ((Collector.Of.visit_all (hof.push_include segments line literal)
      body).push_path segments leading_colon line) arguments
  | .Tokens _ => hof
  | .Other _ children => Collector.Of.visit_all hof children

theorem Collector.Of.visit_all {c : Collector} (hof : c.Of module) :
    ∀ nodes, (c.visit_all nodes).Of module
  | [] => hof
  | node :: nodes => Collector.Of.visit_all (Collector.Of.visit hof node) nodes

end

variable {libs : String → Prop} {scanner : Scanner} {root : String}

end

end archlint.scan
