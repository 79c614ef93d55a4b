import AngzarrRouter.Archlint.Scan.Resolve

open calls calls.MutCall
open text archlint.model archlint.scan archlint.syntax

namespace archlint.workspace

structure Target where
  name : String
  kind : List String
  src_path : PathBuf

structure Dependency where
  name : String
  rename : Option String
  kind : Option String
  path : Option PathBuf

structure Package where
  name : String
  manifest_path : PathBuf
  targets : List Target
  dependencies : List Dependency

/-- What `cargo metadata` says of a workspace. -/
structure Metadata where
  packages : List Package
  workspace_root : PathBuf

def LIB_KINDS : List String := ["lib", "rlib", "dylib", "cdylib", "staticlib", "proc-macro"]

namespace Target

def is_lib (self : Target) : Bool := self.kind.any LIB_KINDS.contains

/-- The module path a target's root is known by. -/
def root_module (self : Target) (lib : String) : String :=
  if self.is_lib then lib
  else
    let kind := match self.kind.head? with
      | some kind => if kind = "custom-build" then "build" else kind
      | none => "target"
    child_path lib (kind ++ "#" ++ self.name)

def scope (self : Target) : Scope :=
  if self.kind.any ["test", "bench", "example"].contains then .Test else .Lib

end Target

/-- The name the package's library is referenced by in code. -/
def Package.lib_name (self : Package) : String :=
  match self.targets.find? Target.is_lib with
  | some t => t.name
  | none => replace '-' '_' self.name

namespace Dependency

def code_name (self : Dependency) : String := replace '-' '_' (self.rename.getD self.name)

def scope (self : Dependency) : Scope := if self.kind = some "dev" then .Test else .Lib

/-- How a manifest declares a dependency: its table and its name. -/
def via (self : Dependency) : String :=
  let table :=
    if self.kind = some "dev" then "dev-dependencies"
    else if self.kind = some "build" then "build-dependencies"
    else "dependencies"
  "[" ++ table ++ "] " ++ self.name

end Dependency

/-- The crate names a package's code may reference. -/
def Package.known (self : Package) : BTreeSet :=
  .ofList (self.dependencies.map Dependency.code_name ++ ["std", "core", "alloc"] ++ [self.lib_name])

section

variable [Alphanumeric] (sources : Sources) (stack : Nat)

/-- `build_model`'s loop over a package's targets, which leaves out one whose
root is that of an earlier one. -/
def add_targets (package : Package) :
    Scanner → BTreeSet → List Target → MutCall Scanner String Unit
  | scanner, _, [] => (scanner, .ok ())
  | scanner, seen, target :: targets =>
    let root := target.root_module package.lib_name
    if seen.contains root then add_targets package scanner seen targets
    else
      (scanner.add_target sources stack root target.src_path target.scope package.known).andThen
        fun scanner _ => add_targets package scanner (seen.insert root) targets

/-- One pass of `build_model`'s loop over a package's dependencies. -/
def add_dependency (metadata : Metadata) (package : Package) (scanner : Scanner)
    (dep : Dependency) : Scanner :=
  let lib := package.lib_name
  let scanner := scanner.add_manifest_edge lib dep.code_name dep.scope package.manifest_path dep.via
  let in_workspace := metadata.packages.any fun p => p.name = dep.name
  match dep.path with
  | some path =>
    if in_workspace then scanner
    else
      let target := "path:" ++ (scanner.relative path).display
      scanner.add_manifest_edge lib target dep.scope package.manifest_path dep.via
  | none => scanner

/-- One pass of `build_model`'s loop over the packages. -/
def scan_package (metadata : Metadata) (scanner : Scanner) (package : Package) :
    MutCall Scanner String Unit :=
  (add_targets sources stack package scanner ∅ package.targets).andThen fun scanner _ =>
    (package.dependencies.foldl (add_dependency metadata package) scanner, .ok ())

/-- The scanner `build_model` finishes. -/
def scan_workspace (metadata : Metadata) : Outcome String Scanner :=
  let scanner := metadata.packages.foldl (fun scanner package =>
    scanner.add_workspace_crate package.lib_name) (.new metadata.workspace_root)
  ((for_each (scan_package sources stack metadata) scanner metadata.packages).owned).map Prod.fst

/-- The model of every workspace package: each target's module tree and the
edges its manifest dependencies declare. -/
def build_model (metadata : Metadata) : Outcome String (Model × List String) :=
  (scan_workspace sources stack metadata).map Scanner.finish

end

end archlint.workspace
