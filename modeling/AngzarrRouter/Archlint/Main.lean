import AngzarrRouter.Archlint.Rules
import AngzarrRouter.Archlint.Workspace

open calls
open text archlint.model archlint.rules archlint.scan archlint.syntax archlint.workspace

namespace archlint

/-- The program's arguments, paths as the texts they are given in. -/
structure Args where
  rules : String
  manifest : String
  edges : Bool
deriving DecidableEq, Repr

def Args.default : Args := { rules := "archlint.toml", manifest := "Cargo.toml", edges := false }

/-- `parse_args`'s loop over the arguments after the program's name. -/
def parse_args_from : Args → List String → Except String Args
  | args, [] => .ok args
  | args, arg :: it =>
    if arg = "--rules" then
      match it with
      | path :: it => parse_args_from { args with rules := path } it
      | [] => .error "--rules needs a path"
    else if arg = "--manifest-path" then
      match it with
      | path :: it => parse_args_from { args with manifest := path } it
      | [] => .error "--manifest-path needs a path"
    else if arg = "--edges" then parse_args_from { args with edges := true } it
    else .error ("unknown argument `" ++ arg ++ "`")

def parse_args (it : List String) : Except String Args := parse_args_from .default it

/-- What a run of the program reads: its arguments, `cargo metadata`, the disk
and what `toml` makes of a text, with the stack it runs on. -/
structure Process where
  args : List String
  metadata : String → Except String Metadata
  sources : Sources
  stack : Nat
  read_to_string : String → Except String String
  from_str : String → Except String RulesFile

/-- What a run prints, line by line. -/
structure Output where
  stdout : List String
  stderr : List String
deriving DecidableEq, Repr

namespace Output

def println (self : Output) (line : String) : Output := { self with stdout := self.stdout ++ [line] }

def eprintln (self : Output) (line : String) : Output := { self with stderr := self.stderr ++ [line] }

/-- A loop of `println!`. -/
def println_all (self : Output) (lines : List String) : Output :=
  { self with stdout := self.stdout ++ lines }

def eprintln_all (self : Output) (lines : List String) : Output :=
  { self with stderr := self.stderr ++ lines }

end Output

/-- An edge's line in `print_edges`. -/
def edge_line (e : Edge) : String :=
  let scope := match e.scope with
    | .Lib => "lib "
    | .Test => "test"
  scope ++ " " ++ e.from_module ++ " -> " ++ e.to_target

def print_edges (output : Output) (model : Model) : Output :=
  let lines : BTreeSet := .ofList (model.edges.map edge_line)
  output.println_all lines.toList

/-- A stale pattern's line in `run`'s error. -/
def stale_line (stale : String × String) : String :=
  "rule `" ++ stale.1 ++ "`: `from` pattern `" ++ stale.2 ++ "` matches no module"

/-- A violation's lines in `run`'s report. -/
def violation_line (v : Violation) : String :=
  let file := v.edge.file.display
  let place := if v.edge.line = 0 then file else file ++ ":" ++ toString v.edge.line
  "\n[" ++ v.rule.name ++ "] " ++ v.rule.why ++ "\n  " ++ place ++ "  " ++ v.edge.from_module ++
    " -> " ++ v.edge.to_target ++ "  (via " ++ v.edge.via ++ ")"

def clean_line (file : RulesFile) (model : Model) : String :=
  "archlint: " ++ toString file.rules.length ++ " rules, " ++ toString model.modules.size ++
    " modules, " ++ toString model.edges.length ++ " edges: no violations"

def violations_line (rules : String) (violations : List Violation) : String :=
  "archlint: " ++ toString violations.length ++ " violation(s) of " ++ rules

/-- What `run` does with a model once it has the rules. -/
def judge (output : Output) (rules : String) (file : RulesFile) (model : Model) :
    MutCall Output String Bool :=
  let stale := unmatched_from file model
  if !stale.isEmpty then (output, .err ("\n".intercalate (stale.map stale_line)))
  else
    let violations := check file model
    if violations.isEmpty then (output.println (clean_line file model), .ok true)
    else
      let output := output.eprintln (violations_line rules violations)
      (output.eprintln_all (violations.map violation_line), .ok false)

section

variable [Alphanumeric] (process : Process)

def run : MutCall Output String Bool :=
  let output := { stdout := [], stderr := [] }
  match parse_args process.args with
  | .error e => (output, .err e)
  | .ok args =>
    match process.metadata args.manifest with
    | .error e => (output, .err e)
    | .ok metadata =>
      match build_model process.sources process.stack metadata with
      | .err e => (output, .err e)
      | .panic => (output, .panic)
      | .ok (model, warnings) =>
        let output := output.eprintln_all (warnings.map ("archlint: warning: " ++ ·))
        if args.edges then (print_edges output model, .ok true)
        else
          match load process.from_str process.read_to_string args.rules with
          | .error e => (output, .err e)
          | .ok file => judge output args.rules file model

/-- `main`: its exit status, unless the process dies on the way. -/
def main : MutCall Output Empty Nat :=
  match run process with
  | (output, .ok true) => (output, .ok 0)
  | (output, .ok false) => (output, .ok 1)
  | (output, .err e) => (output.eprintln ("archlint: " ++ e), .ok 2)
  | (output, .panic) => (output, .panic)

end

end archlint
