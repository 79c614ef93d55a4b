import AngzarrRouter.Archlint.Model
import AngzarrRouter.Archlint.Syntax
import AngzarrRouter.Calls.Fold

open calls calls.MutCall
open text archlint.model archlint.syntax

namespace archlint.scan

/-- How many `use` aliases a path is followed through. -/
def ALIAS_DEPTH : Nat := 16

structure ModuleInfo where
  file : PathBuf
  root : String
  children : BTreeSet
  aliases : BTreeMap (List String)

/-- `ModuleInfo::default()`. -/
def ModuleInfo.default : ModuleInfo :=
  { file := .empty, root := "", children := ∅, aliases := ∅ }

/-- A path as the code in a module writes it. -/
structure RawRef where
  module : String
  scope : Scope
  segs : List String
  leading_colon : Bool
  file : PathBuf
  line : Nat
deriving DecidableEq, Repr

/-- Where a module's items are being read from. -/
structure Ctx where
  module : String
  file : PathBuf
  child_dir : PathBuf
  scope : Scope

/-- Where the scanner's sources come from (the disk, or its `memory`), and
`syn`'s parser of them: a file's items, and its inner attributes. -/
structure Sources where
  read : PathBuf → Option String
  is_file : PathBuf → Bool
  parse_file : String → Except String (List Item)
  file_attrs : String → List Attribute := fun _ => []

structure Scanner where
  workspace_root : PathBuf
  modules : BTreeMap ModuleInfo
  known : BTreeMap BTreeSet
  workspace_crates : BTreeSet
  refs : List RawRef
  edges : List Edge
  warnings : List String

def parent_dir (path : PathBuf) : PathBuf := path.parent.getD .empty

/-- Lexical normalisation: drops `.` and folds `..`. -/
def normalise (path : PathBuf) : PathBuf :=
  path.components.foldl (fun out c =>
    match c with
    | .CurDir => out
    | .ParentDir => out.pop
    | other => out.push other) .empty

/-- `{parent}::{name}`. -/
def child_path (parent name : String) : String := parent ++ "::" ++ name

/-- Collects every path referenced inside one item. -/
structure Collector where
  ctx : Ctx
  scopes : List Scope
  refs : List RawRef
  includes : List (Nat × String)

namespace Collector

def new (ctx : Ctx) (scope : Scope) : Collector :=
  { ctx, scopes := [scope], refs := [], includes := [] }

def scope (self : Collector) : Scope := self.scopes.headD .Lib

def with_attrs [Alphanumeric] (self : Collector) (attrs : List Attribute)
    (f : Collector → Collector) : Collector :=
  let scope := if is_cfg_test attrs then .Test else self.scope
  let self := f { self with scopes := scope :: self.scopes }
  { self with scopes := self.scopes.tail }

def push (self : Collector) (segs : List String) (leading_colon : Bool) (line : Nat) : Collector :=
  let ref := { module := self.ctx.module, scope := self.scope, segs, leading_colon
               file := self.ctx.file, line }
  { self with refs := self.refs ++ [ref] }

/-- What `visit_path` does before it visits the path's arguments: a bare
identifier is never a module reference on its own. -/
def push_path (self : Collector) (segments : List Ident) (leading_colon : Bool) (line : Nat) :
    Collector :=
  if 1 < segments.length || leading_colon then
    self.push (segments.map Ident.to_string) leading_colon line
  else self

def visit_item_use (self : Collector) (u : ItemUse) : Collector :=
  (flatten_use u.tree []).foldl (fun self (segs, _) => self.push segs u.leading_colon u.line) self

/-- What `visit_macro` does first: the file an `include!` names. -/
def push_include (self : Collector) (segments : List Ident) (line : Nat)
    (literal : Option String) : Collector :=
  let name := (segments.getLast?.map Ident.to_string).getD ""
  match decide (name ∈ ["include", "include_str", "include_bytes"]), literal with
  | true, some lit => { self with includes := self.includes ++ [(line, lit)] }
  | _, _ => self

mutual

/-- The visitor, at one node. -/
def visit [Alphanumeric] (self : Collector) : Node → Collector
  | .Path segments leading_colon line arguments =>
    (self.push_path segments leading_colon line).visit_all arguments
  | .ItemUse u => self.visit_item_use u
  | .ItemMod _ => self
  | .Item attrs children => self.with_attrs attrs fun self => self.visit_all children
  | .ImplItem attrs children => self.with_attrs attrs fun self => self.visit_all children
  | .Macro segments leading_colon line arguments literal parses body =>
    let self := self.push_include segments line literal
    let self := if parses then self.visit_all body else self
    (self.push_path segments leading_colon line).visit_all arguments
  | .Tokens _ => self
  | .Other _ children => self.visit_all children

def visit_all [Alphanumeric] (self : Collector) : List Node → Collector
  | [] => self
  | node :: nodes => (self.visit node).visit_all nodes

end

end Collector

namespace Scanner

def new (workspace_root : PathBuf) : Scanner :=
  { workspace_root, modules := ∅, known := ∅, workspace_crates := ∅, refs := [], edges := []
    warnings := [] }

def add_workspace_crate (self : Scanner) (lib : String) : Scanner :=
  { self with workspace_crates := self.workspace_crates.insert lib }

/-- A path relative to the workspace root, lexically normalised. -/
def relative (self : Scanner) (path : PathBuf) : PathBuf :=
  let path := normalise path
  (PathBuf.strip_prefix path self.workspace_root).getD path

/-- Sets a module's file and root, entering it in the table if it is new. -/
def enter (self : Scanner) (root : String) (ctx : Ctx) : Scanner :=
  let info := (self.modules[ctx.module]?).getD .default
  { self with modules := self.modules.insert ctx.module { info with file := ctx.file, root } }

/-- Makes a name a module's child, if that module is in the table. -/
def adopt (self : Scanner) (parent name : String) : Scanner :=
  match self.modules[parent]? with
  | some p =>
    let children := p.children.insert name
    { self with modules := self.modules.insert parent { p with children } }
  | none => self

def register (self : Scanner) (root : String) (ctx : Ctx) : Scanner :=
  let self := self.enter root ctx
  match rsplit_once "::" ctx.module with
  | some (parent, name) => self.adopt parent name
  | none => self

/-- Enters a path as what a module imports under a name, if it does. -/
def add_alias (self : Scanner) (module : String) (imported : Option String) (segs : List String) :
    Scanner :=
  match imported, self.modules[module]? with
  | some imported, some info =>
    let aliases := info.aliases.insert imported segs
    { self with modules := self.modules.insert module { info with aliases } }
  | _, _ => self

def push_refs (self : Scanner) (refs : List RawRef) : Scanner :=
  { self with refs := self.refs ++ refs }

def push_edge (self : Scanner) (edge : Edge) : Scanner := { self with edges := self.edges ++ [edge] }

def add_manifest_edge (self : Scanner) (from_module to_target : String) (scope : Scope)
    (manifest : PathBuf) (via : String) : Scanner :=
  self.push_edge { from_module, to_target, scope, file := self.relative manifest, line := 0, via }

/-- One leaf of a `use` item: a reference, and at module level an alias for the
name it imports. -/
def record_leaf (ctx : Ctx) (u : ItemUse) (scope : Scope) (module_level : Bool) (self : Scanner)
    (leaf : List String × Option String) : Scanner :=
  let (segs, imported) := leaf
  let self := if module_level then self.add_alias ctx.module imported segs else self
  self.push_refs [{ module := ctx.module, scope, segs, leading_colon := u.leading_colon
                    file := ctx.file, line := u.line }]

def record_use (self : Scanner) (ctx : Ctx) (u : ItemUse) (scope : Scope) (module_level : Bool) :
    Scanner :=
  (flatten_use u.tree []).foldl (record_leaf ctx u scope module_level) self

def record_include (ctx : Ctx) (scope : Scope) (self : Scanner) (found : Nat × String) : Scanner :=
  let (line, lit) := found
  let target := self.relative ((parent_dir ctx.file).join (.of lit))
  self.push_edge { from_module := ctx.module, to_target := "path:" ++ target.display, scope
                   file := self.relative ctx.file, line, via := "include!(\"" ++ lit ++ "\")" }

/-- `walk_items` on an item that is neither a module nor a `use`. -/
def record_other [Alphanumeric] (self : Scanner) (ctx : Ctx) (scope : Scope)
    (attrs : List Attribute) (children : List Node) : Scanner :=
  let c := (Collector.new ctx scope).visit (.Item attrs children)
  c.includes.foldl (record_include ctx scope) (self.push_refs c.refs)

/-- The file a `mod x;` declaration names and where its own modules lie, if
there is one. -/
def mod_file (sources : Sources) (ctx : Ctx) (name : String) (attrs : List Attribute) :
    Option (PathBuf × PathBuf) :=
  match path_attr attrs with
  | some p =>
    let file := (parent_dir ctx.file).join (.of p)
    some (file, parent_dir file)
  | none =>
    let flat := ctx.child_dir.join (.of (name ++ ".rs"))
    let nested := (ctx.child_dir.join (.of name)).join (.of "mod.rs")
    if sources.is_file flat then some (flat, ctx.child_dir.join (.of name))
    else if sources.is_file nested then some (nested, ctx.child_dir.join (.of name))
    else none

section

variable [Alphanumeric] (sources : Sources)
variable (walk_file : Scanner → String → Ctx → MutCall Scanner String Unit)

mutual

/-- `walk_items`, over a walk of the files that modules are declared in. -/
def walk_items (self : Scanner) (root : String) (ctx : Ctx) :
    List Item → MutCall Scanner String Unit
  | [] => (self, .ok ())
  | item :: items =>
    (self.walk_item root ctx item).andThen fun self _ => self.walk_items root ctx items

/-- One pass of `walk_items`'s loop. -/
def walk_item (self : Scanner) (root : String) (ctx : Ctx) : Item → MutCall Scanner String Unit
  | .Mod attrs ident content =>
    let scope := if is_cfg_test attrs then .Test else ctx.scope
    self.walk_mod root ctx attrs ident scope content
  | .Use u =>
    let scope := if is_cfg_test u.attrs then .Test else ctx.scope
    (self.record_use ctx u scope true, .ok ())
  | .Other attrs children =>
    let scope := if is_cfg_test attrs then .Test else ctx.scope
    (self.record_other ctx scope attrs children, .ok ())

def walk_mod (self : Scanner) (root : String) (ctx : Ctx) (attrs : List Attribute) (ident : Ident)
    (scope : Scope) : Option (List Item) → MutCall Scanner String Unit
  | some items =>
    let name := ident.to_string
    let child := { module := child_path ctx.module name, file := ctx.file
                   child_dir := ctx.child_dir.join (.of name), scope }
    (self.register root child).walk_items root child items
  | none =>
    let name := ident.to_string
    match mod_file sources ctx name attrs with
    | some (file, child_dir) =>
      let child := { module := child_path ctx.module name, file := normalise file, child_dir, scope }
      walk_file self root child
    | none =>
      let warning := (self.relative ctx.file).display ++ ": module `" ++ name ++ "` has no source file"
      ({ self with warnings := self.warnings ++ [warning] }, .ok ())

end

end

/-- `walk_file`, in a process whose stack holds `stack` files: one more and it
dies. -/
def walk_file [Alphanumeric] (sources : Sources) :
    Nat → Scanner → String → Ctx → MutCall Scanner String Unit
  | 0, self, _, _ => (self, .panic)
  | stack + 1, self, root, ctx =>
    match sources.read ctx.file with
    | none => (self, .err (ctx.file.display ++ ": cannot read"))
    | some text =>
      match sources.parse_file text with
      | .error e => (self, .err (ctx.file.display ++ ": " ++ e))
      | .ok items =>
        (self.register root ctx).walk_items sources (walk_file sources stack) root ctx items

/-- Scans one target rooted at `src` as module `root`. -/
def add_target [Alphanumeric] (sources : Sources) (stack : Nat) (self : Scanner) (root : String)
    (src : PathBuf) (scope : Scope) (known : BTreeSet) : MutCall Scanner String Unit :=
  let ctx := { module := root, file := src, child_dir := parent_dir src, scope }
  let self := { self with known := self.known.insert root known }
  self.walk_file sources stack root ctx

end Scanner

end archlint.scan
