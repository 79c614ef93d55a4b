import AngzarrRouter.Archlint.Escape
import AngzarrRouter.Archlint.Main
import AngzarrRouter.Archlint.Matching
import Mathlib.Data.List.Nodup

open calls
open text archlint.model archlint.rules archlint.scan archlint.syntax archlint.workspace

namespace archlint.rules

/-- What a pattern stands for in an edge from a module: a `self` segment that
it starts with, for the module. -/
inductive Stands (from_module : String) : String → String → Prop where
  | itself : Stands from_module "self" from_module
  | inside (rest : String) : Stands from_module ("self::" ++ rest) (from_module ++ "::" ++ rest)
  | plain {pattern : String} (hitself : pattern ≠ "self") (hinside : ∀ rest, pattern ≠ "self::" ++ rest) :
    Stands from_module pattern pattern

/-- A pattern of a rule's accepts the target of an edge. -/
def Hits (edge : Edge) (pattern : String) : Prop :=
  ∃ expanded, Stands edge.from_module pattern expanded ∧ Accepts expanded edge.to_target

/-- A rule is about an edge: it covers its scope, and constrains its module. -/
structure Constrains (rule : Rule) (edge : Edge) : Prop where
  scope : rule.scope = .All ∨ rule.scope = .Lib ∧ edge.scope = .Lib ∨
    rule.scope = .Test ∧ edge.scope = .Test
  from_module : ∃ pattern ∈ rule.from_modules, Accepts pattern edge.from_module

/-- An edge leads into the workspace: to a file on disk or into a crate of its
own. -/
def Inside (libs : String → Prop) (edge : Edge) : Prop :=
  (∃ path, edge.to_target = "path:" ++ path) ∨ libs (head edge.to_target)

/-- A rule forbids an edge that it is about: one that it denies, or one into
the workspace that it does not allow. -/
inductive Forbids (libs : String → Prop) (rule : Rule) (edge : Edge) : Prop where
  | denied (hconstrains : Constrains rule edge) {pattern : String} (hdeny : pattern ∈ rule.deny)
    (hhits : Hits edge pattern)
  | unlisted (hconstrains : Constrains rule edge) {allow : List String}
    (hallow : rule.allow = some allow) (hinside : Inside libs edge)
    (hnone : ∀ pattern ∈ allow, ¬ Hits edge pattern)

/-- Some of the patterns matches a path where one accepts it. -/
theorem any_matches_path_iff {patterns : List String} {path : String} :
    patterns.any (matches_path · path) = true ↔ ∃ pattern ∈ patterns, Accepts pattern path := by
  simp only [List.any_eq_true, matches_path_iff]

theorem self_inside (rest : String) : "self::" ++ rest = "self" ++ ("::" ++ rest) := by
  rw [← String.append_assoc]
  rfl

/-- A `self` segment that a pattern starts with stands for the module. -/
theorem expand_self_inside (from_module rest : String) :
    expand_self ("self::" ++ rest) from_module = from_module ++ "::" ++ rest := by
  have hsome : "::" ++ rest ≠ "" := fun hnone => by simpa using congrArg String.length hnone
  rw [expand_self, strip_prefix_eq_some_iff.mpr (self_inside rest)]
  dsimp only
  rw [if_neg hsome, if_pos (starts_with_iff.mpr ⟨rest, rfl⟩), String.append_assoc]

/-- A pattern that does not start with one stands for itself. -/
theorem expand_self_plain {pattern : String} (from_module : String) (hitself : pattern ≠ "self")
    (hinside : ∀ rest, pattern ≠ "self::" ++ rest) : expand_self pattern from_module = pattern := by
  unfold expand_self
  split
  · rename_i rest hrest
    have hpattern := strip_prefix_eq_some_iff.mp hrest
    split
    · rename_i hempty
      exact absurd (by rw [hpattern, hempty]; rfl) hitself
    split
    · rename_i hstarts
      obtain ⟨back, rfl⟩ := starts_with_iff.mp hstarts
      exact absurd (hpattern.trans (self_inside back).symm) (hinside back)
    · rfl
  · rfl

/-- Expanding a pattern answers what it stands for. -/
theorem stands_iff {from_module pattern expanded : String} :
    Stands from_module pattern expanded ↔ expand_self pattern from_module = expanded := by
  constructor
  · intro hstands
    cases hstands with
    | itself => rfl
    | inside rest => exact expand_self_inside from_module rest
    | plain hitself hinside => exact expand_self_plain from_module hitself hinside
  · rintro rfl
    by_cases hitself : pattern = "self"
    · rw [hitself]
      exact .itself
    by_cases hinside : ∃ rest, pattern = "self::" ++ rest
    · obtain ⟨rest, rfl⟩ := hinside
      rw [expand_self_inside]
      exact .inside rest
    · have hplain : ∀ rest, pattern ≠ "self::" ++ rest := fun rest heq => hinside ⟨rest, heq⟩
      rw [expand_self_plain from_module hitself hplain]
      exact .plain hitself hplain

section

variable {rule : Rule} {edge : Edge} {model : Model} {libs : String → Prop}

/-- A pattern hits an edge where what it stands for accepts the target. -/
theorem hit_iff {pattern : String} : hit edge pattern = true ↔ Hits edge pattern := by
  rw [hit, matches_path_iff]
  refine ⟨fun haccepts => ⟨_, stands_iff.mpr rfl, haccepts⟩, ?_⟩
  rintro ⟨expanded, hstands, haccepts⟩
  rw [stands_iff.mp hstands]
  exact haccepts

/-- The checker's two tests of a rule and an edge are whether it is about it. -/
theorem constrains_iff : Constrains rule edge ↔ rule.scope.covers edge.scope = true ∧
    rule.from_modules.any (matches_path · edge.from_module) = true := by
  have hcovers : rule.scope.covers edge.scope = true ↔ rule.scope = .All ∨
      rule.scope = .Lib ∧ edge.scope = .Lib ∨ rule.scope = .Test ∧ edge.scope = .Test := by
    cases rule.scope <;> cases edge.scope <;> decide
  rw [hcovers, any_matches_path_iff]
  exact ⟨fun ⟨hscope, hfrom⟩ => ⟨hscope, hfrom⟩, fun ⟨hscope, hfrom⟩ => ⟨hscope, hfrom⟩⟩

/-- A target is internal where the edge leads into the workspace. -/
theorem is_internal_iff (hcrates : ∀ lib, lib ∈ model.workspace_crates ↔ libs lib) :
    model.is_internal edge.to_target = true ↔ Inside libs edge := by
  rw [Model.is_internal, Bool.or_eq_true, starts_with_iff, Std.ExtTreeSet.contains_iff_mem, hcrates]
  rfl

/-- A rule breaks on exactly the edges that it forbids. -/
theorem breaks_iff (hcrates : ∀ lib, lib ∈ model.workspace_crates ↔ libs lib) :
    breaks rule edge model = true ↔ Forbids libs rule edge := by
  have hinternal : model.is_internal edge.to_target = true ↔ Inside libs edge :=
    is_internal_iff hcrates
  unfold breaks
  split
  · rename_i hpasses
    refine ⟨nofun, fun hforbids => ?_⟩
    have hconstrains : Constrains rule edge := by
      cases hforbids with
      | denied hconstrains _ _ => exact hconstrains
      | unlisted hconstrains _ _ _ => exact hconstrains
    obtain ⟨hscope, hfrom⟩ := constrains_iff.mp hconstrains
    simp [hscope, hfrom] at hpasses
  rename_i habout
  have hconstrains : Constrains rule edge := by
    refine constrains_iff.mpr ?_
    simpa using habout
  split
  · rename_i hdenied
    obtain ⟨pattern, hpattern, hhit⟩ := List.any_eq_true.mp hdenied
    exact ⟨fun _ => .denied hconstrains hpattern (hit_iff.mp hhit), fun _ => rfl⟩
  rename_i hundenied
  have hdeny : ∀ pattern ∈ rule.deny, ¬ Hits edge pattern := fun pattern hpattern hhits =>
    hundenied (List.any_eq_true.mpr ⟨pattern, hpattern, hit_iff.mpr hhits⟩)
  split
  · rename_i allow hallow
    rw [Bool.and_eq_true, hinternal, Bool.not_eq_true', List.any_eq_false]
    constructor
    · rintro ⟨hinside, hnone⟩
      exact .unlisted hconstrains hallow hinside fun pattern hpattern hhits =>
        hnone pattern hpattern (hit_iff.mpr hhits)
    · intro hforbids
      cases hforbids with
      | denied _ hpattern hhits => exact absurd hhits (hdeny _ hpattern)
      | unlisted _ hallow' hinside hnone =>
        obtain rfl := Option.some.inj (hallow'.symm.trans hallow)
        exact ⟨hinside, fun pattern hpattern hhit => hnone pattern hpattern (hit_iff.mp hhit)⟩
  · rename_i hallow
    refine ⟨nofun, fun hforbids => ?_⟩
    cases hforbids with
    | denied _ hpattern hhits => exact absurd hhits (hdeny _ hpattern)
    | unlisted _ hallow' _ _ => exact absurd (hallow'.symm.trans hallow) nofun

/-- A rule's pattern is stale exactly if it accepts no module. -/
theorem mem_unmatched_from_iff {file : RulesFile} {name pattern : String} :
    (name, pattern) ∈ unmatched_from file model ↔ ∃ rule ∈ file.rules, rule.name = name ∧
      pattern ∈ rule.from_modules ∧ ∀ path ∈ model.modules, ¬ Accepts pattern path := by
  simp only [unmatched_from, List.mem_flatMap, List.mem_map, List.mem_filter, Prod.mk.injEq,
    Bool.not_eq_true', List.any_eq_false, Std.ExtTreeMap.mem_keys, matches_path_iff]
  constructor
  · rintro ⟨rule, hrule, _, ⟨hpattern, hnone⟩, rfl, rfl⟩
    exact ⟨rule, hrule, rfl, hpattern, hnone⟩
  · rintro ⟨rule, hrule, rfl, hpattern, hnone⟩
    exact ⟨rule, hrule, pattern, ⟨hpattern, hnone⟩, rfl, rfl⟩

end

/-- A rule that parses constrains something, and says what it allows or denies. -/
theorem parse_rule_eq_ok_iff {rule : Rule} : parse_rule rule = .ok () ↔
    (rule.allow ≠ none ∨ rule.deny ≠ []) ∧ rule.from_modules ≠ [] := by
  unfold parse_rule
  cases rule.allow <;> cases rule.deny <;> cases rule.from_modules <;> simp

theorem forM_parse_rule_eq_ok_iff {rules : List Rule} :
    rules.forM parse_rule = .ok () ↔ ∀ rule ∈ rules, parse_rule rule = .ok () := by
  induction rules with
  | nil => exact ⟨fun _ _ hnone => absurd hnone List.not_mem_nil, fun _ => rfl⟩
  | cons rule rules ih =>
    rw [List.forall_mem_cons, ← ih]
    change (parse_rule rule >>= fun _ => rules.forM parse_rule) = .ok () ↔ _
    cases parse_rule rule with
    | error e => exact ⟨nofun, fun ⟨hfirst, _⟩ => nomatch hfirst⟩
    | ok _ => exact ⟨fun hrest => ⟨rfl, hrest⟩, fun ⟨_, hrest⟩ => hrest⟩

/-- Every rule of a file that `parse` answers constrains something, and says
what it allows there or denies. -/
theorem parse_eq_ok_iff {from_str : String → Except String RulesFile} {text : String}
    {file : RulesFile} : parse from_str text = .ok file ↔ from_str text = .ok file ∧
      ∀ rule ∈ file.rules, (rule.allow ≠ none ∨ rule.deny ≠ []) ∧ rule.from_modules ≠ [] := by
  simp only [← parse_rule_eq_ok_iff, ← forM_parse_rule_eq_ok_iff]
  unfold parse
  cases from_str text with
  | error e => simp
  | ok found =>
    dsimp only
    constructor
    · intro hparse
      split at hparse
      · cases hparse
      · rename_i hrules
        obtain rfl := Except.ok.inj hparse
        exact ⟨rfl, hrules⟩
    · rintro ⟨hfound, hrules⟩
      obtain rfl := Except.ok.inj hfound
      rw [hrules]

theorem exists_parse_of_load {from_str : String → Except String RulesFile}
    {read_to_string : String → Except String String} {path : String} {file : RulesFile}
    (hload : load from_str read_to_string path = .ok file) :
    ∃ text, parse from_str text = .ok file := by
  unfold load at hload
  split at hload
  · cases hload
  rename_i text _
  split at hload
  · cases hload
  rename_i found hparse
  obtain rfl := Except.ok.inj hload
  exact ⟨text, hparse⟩

end archlint.rules

namespace archlint

section

variable [Alphanumeric]

/-- A run has the workspace that it is to check, and scans it. -/
structure Surveys (process : Process) (args : Args) (metadata : Metadata) (scanner : Scanner) :
    Prop where
  parsed : parse_args process.args = .ok args
  described : process.metadata args.manifest = .ok metadata
  scanned : scan_workspace process.sources process.stack metadata = .ok scanner

/-- Every pattern that a rule constrains modules by is of one in the workspace. -/
def Live (sources : Sources) (metadata : Metadata) (file : RulesFile) : Prop :=
  ∀ rule ∈ file.rules, ∀ pattern ∈ rule.from_modules,
    ∃ path, WorkspaceWrites sources metadata (.Module path) ∧ Accepts pattern path

/-- The workspace draws an edge from a module to another that a rule forbids. -/
structure Breach (sources : Sources) (metadata : Metadata) (scanner : Scanner) (file : RulesFile)
    (rule : Rule) (edge : Edge) : Prop where
  enforced : rule ∈ file.rules
  drawn : Draws sources metadata scanner edge
  apart : edge.from_module ≠ edge.to_target
  forbidden : Forbids metadata.Lib rule edge

/-- The exit status of a run. -/
inductive Exits (process : Process) : Nat → Prop where
  | arguments {e : String} (hargs : parse_args process.args = .error e) : Exits process 2
  | metadata {args : Args} {e : String} (hargs : parse_args process.args = .ok args)
    (hmetadata : process.metadata args.manifest = .error e) : Exits process 2
  | scan {args : Args} {metadata : Metadata} {e : String}
    (hargs : parse_args process.args = .ok args)
    (hmetadata : process.metadata args.manifest = .ok metadata)
    (hscan : scan_workspace process.sources process.stack metadata = .err e) : Exits process 2
  | edges {args : Args} {metadata : Metadata} {scanner : Scanner}
    (hsurveys : Surveys process args metadata scanner) (hedges : args.edges = true) : Exits process 0
  | rules {args : Args} {metadata : Metadata} {scanner : Scanner} {e : String}
    (hsurveys : Surveys process args metadata scanner) (hedges : args.edges = false)
    (hload : load process.from_str process.read_to_string args.rules = .error e) : Exits process 2
  | stale {args : Args} {metadata : Metadata} {scanner : Scanner} {file : RulesFile}
    (hsurveys : Surveys process args metadata scanner) (hedges : args.edges = false)
    (hload : load process.from_str process.read_to_string args.rules = .ok file)
    (hstale : ¬ Live process.sources metadata file) : Exits process 2
  | clean {args : Args} {metadata : Metadata} {scanner : Scanner} {file : RulesFile}
    (hsurveys : Surveys process args metadata scanner) (hedges : args.edges = false)
    (hload : load process.from_str process.read_to_string args.rules = .ok file)
    (hlive : Live process.sources metadata file)
    (hnone : ∀ rule edge, ¬ Breach process.sources metadata scanner file rule edge) : Exits process 0
  | violations {args : Args} {metadata : Metadata} {scanner : Scanner} {file : RulesFile}
    {rule : Rule} {edge : Edge}
    (hsurveys : Surveys process args metadata scanner) (hedges : args.edges = false)
    (hload : load process.from_str process.read_to_string args.rules = .ok file)
    (hlive : Live process.sources metadata file)
    (hbreach : Breach process.sources metadata scanner file rule edge) : Exits process 1

section

variable {sources : Sources} {metadata : Metadata} {scanner : Scanner} {model : Model}
  {warnings : List String} {file : RulesFile}

/-- No pattern is stale exactly if the rules are live. -/
theorem unmatched_from_eq_nil_iff (hexact : Exact sources metadata scanner model warnings) :
    unmatched_from file model = [] ↔ Live sources metadata file := by
  rw [List.eq_nil_iff_forall_not_mem]
  simp only [Prod.forall, mem_unmatched_from_iff, hexact.modules]
  constructor
  · intro hnone rule hrule pattern hpattern
    by_contra hstale
    exact hnone _ _ ⟨rule, hrule, rfl, hpattern, fun path hpath haccepts =>
      hstale ⟨path, hpath, haccepts⟩⟩
  · rintro hlive _ pattern ⟨rule, hrule, _, hpattern, hnone⟩
    obtain ⟨path, hpath, haccepts⟩ := hlive rule hrule pattern hpattern
    exact hnone path hpath haccepts

/-- The checker's violations are the edges that the rules forbid. -/
theorem mem_check_iff_breach (hexact : Exact sources metadata scanner model warnings) {rule : Rule}
    {edge : Edge} :
    { rule, edge } ∈ check file model ↔ Breach sources metadata scanner file rule edge := by
  rw [mem_check_iff, hexact.edges, breaks_iff hexact.crates]
  exact ⟨fun ⟨hdrawn, hapart, hrule, hforbids⟩ => ⟨hrule, hdrawn, hapart, hforbids⟩,
    fun ⟨hrule, hdrawn, hapart, hforbids⟩ => ⟨hdrawn, hapart, hrule, hforbids⟩⟩

/-- So it has none where no rule is broken. -/
theorem check_eq_nil_iff (hexact : Exact sources metadata scanner model warnings) :
    check file model = [] ↔ ∀ rule edge, ¬ Breach sources metadata scanner file rule edge := by
  simp only [List.eq_nil_iff_forall_not_mem, ← mem_check_iff_breach hexact]
  exact ⟨fun hnone rule edge => hnone _, fun hnone ⟨rule, edge⟩ => hnone rule edge⟩

end

section

variable {process : Process} {args : Args} {metadata : Metadata} {scanner : Scanner}
  {model : Model} {warnings : List String} {file : RulesFile}

/-- The exit status of what `run` answers. -/
def status_of : Outcome String Bool → Outcome Empty Nat
  | .ok true => .ok 0
  | .ok false => .ok 1
  | .err _ => .ok 2
  | .panic => .panic

/-- The exit status is read off what `run` answers. -/
theorem main_eq_status_of (process : Process) : (main process).2 = status_of (run process).2 := by
  unfold main
  split <;> rename_i hrun <;> rw [hrun] <;> rfl

/-- What a run does once it has a model of its workspace. -/
def run_on (process : Process) (args : Args) (model : Model) (warnings : List String) :
    MutCall Output String Bool :=
  let output := { stdout := [], stderr := warnings.map ("archlint: warning: " ++ ·) }
  if args.edges then (print_edges output model, .ok true)
  else
    match load process.from_str process.read_to_string args.rules with
    | .error e => (output, .err e)
    | .ok file => judge output args.rules file model

/-- A run that has its workspace's model goes on with that. -/
theorem Surveys.run_eq (hsurveys : Surveys process args metadata scanner) :
    run process = run_on process args scanner.finish.1 scanner.finish.2 := by
  have hmodel := build_model_of_scan_workspace hsurveys.scanned
  simp only [run, hsurveys.parsed, hsurveys.described, hmodel]
  rfl

theorem Surveys.exact (hsurveys : Surveys process args metadata scanner) :
    Exact process.sources metadata scanner scanner.finish.1 scanner.finish.2 :=
  exact_of_scan_workspace hsurveys.scanned

/-- A judgement fails on a stale rule, and else answers whether no rule is
broken. -/
inductive Judged (sources : Sources) (metadata : Metadata) (scanner : Scanner) (file : RulesFile) :
    Outcome String Bool → Prop where
  | stale (e : String) (hstale : ¬ Live sources metadata file) :
    Judged sources metadata scanner file (.err e)
  | clean (hlive : Live sources metadata file)
    (hnone : ∀ rule edge, ¬ Breach sources metadata scanner file rule edge) :
    Judged sources metadata scanner file (.ok true)
  | violations {rule : Rule} {edge : Edge} (hlive : Live sources metadata file)
    (hbreach : Breach sources metadata scanner file rule edge) :
    Judged sources metadata scanner file (.ok false)

/-- Judging answers by the rules' being live and unbroken. -/
theorem judged_judge {sources : Sources} (hexact : Exact sources metadata scanner model warnings)
    (output : Output) (rules : String) :
    Judged sources metadata scanner file (judge output rules file model).2 := by
  unfold judge
  dsimp only
  split
  · rename_i hstale
    refine .stale _ fun hlive => ?_
    rw [(unmatched_from_eq_nil_iff hexact).mpr hlive] at hstale
    cases hstale
  rename_i hnone
  have hlive : Live sources metadata file := (unmatched_from_eq_nil_iff hexact).mp (by simpa using hnone)
  split
  · rename_i hclean
    exact .clean hlive ((check_eq_nil_iff hexact).mp (List.isEmpty_iff.mp hclean))
  · rename_i hviolations
    obtain ⟨⟨rule, edge⟩, hmem⟩ := List.exists_mem_of_ne_nil _ (mt List.isEmpty_iff.mpr hviolations)
    exact .violations hlive ((mem_check_iff_breach hexact).mp hmem)

/-- What a run prints before it judges: the scan's warnings. -/
def surveyed (warnings : List String) : Output :=
  { stdout := [], stderr := warnings.map ("archlint: warning: " ++ ·) }

/-- Once it has the rules, it judges. -/
theorem Surveys.run_eq_judge (hsurveys : Surveys process args metadata scanner)
    (hedges : args.edges = false)
    (hload : load process.from_str process.read_to_string args.rules = .ok file) :
    run process = judge (surveyed scanner.finish.2) args.rules file scanner.finish.1 := by
  rw [hsurveys.run_eq, run_on, hedges, hload]
  rfl

theorem Surveys.judged (hsurveys : Surveys process args metadata scanner)
    (hedges : args.edges = false)
    (hload : load process.from_str process.read_to_string args.rules = .ok file) :
    Judged process.sources metadata scanner file (run process).2 := by
  rw [hsurveys.run_eq_judge hedges hload]
  exact judged_judge hsurveys.exact _ _

/-- A run that surveys its workspace has an exit status. -/
theorem Surveys.exits (hsurveys : Surveys process args metadata scanner) :
    ∃ status, Exits process status := by
  cases hedges : args.edges with
  | true => exact ⟨0, .edges hsurveys hedges⟩
  | false =>
    cases hload : load process.from_str process.read_to_string args.rules with
    | error e => exact ⟨2, .rules hsurveys hedges hload⟩
    | ok file =>
      by_cases hlive : Live process.sources metadata file
      · by_cases hbreach : ∃ rule edge, Breach process.sources metadata scanner file rule edge
        · obtain ⟨rule, edge, hbreach⟩ := hbreach
          exact ⟨1, .violations hsurveys hedges hload hlive hbreach⟩
        · exact ⟨0, .clean hsurveys hedges hload hlive fun rule edge hedge =>
            hbreach ⟨rule, edge, hedge⟩⟩
      · exact ⟨2, .stale hsurveys hedges hload hlive⟩

/-- The scan that a run makes runs out of the stack. -/
def Dies (process : Process) : Prop :=
  ∃ args metadata, parse_args process.args = .ok args ∧
    process.metadata args.manifest = .ok metadata ∧
      scan_workspace process.sources process.stack metadata = .panic

/-- A run has an exit status, or dies in its scan. -/
theorem exits_or_dies (process : Process) : (∃ status, Exits process status) ∨ Dies process := by
  cases hargs : parse_args process.args with
  | error e => exact .inl ⟨2, .arguments hargs⟩
  | ok args =>
    cases hmetadata : process.metadata args.manifest with
    | error e => exact .inl ⟨2, .metadata hargs hmetadata⟩
    | ok metadata =>
      cases hscan : scan_workspace process.sources process.stack metadata with
      | ok scanner => exact .inl (Surveys.exits ⟨hargs, hmetadata, hscan⟩)
      | err e => exact .inl ⟨2, .scan hargs hmetadata hscan⟩
      | panic => exact .inr ⟨args, metadata, hargs, hmetadata, hscan⟩

/-- Once it has the rules, a run is clean exactly if all of them are live and
none is broken. -/
theorem Surveys.clean_iff (hsurveys : Surveys process args metadata scanner)
    (hedges : args.edges = false)
    (hload : load process.from_str process.read_to_string args.rules = .ok file) :
    (main process).2 = .ok 0 ↔ Live process.sources metadata file ∧
      ∀ rule edge, ¬ Breach process.sources metadata scanner file rule edge := by
  have hjudged := hsurveys.judged hedges hload
  rw [main_eq_status_of]
  generalize (run process).2 = answer at hjudged
  cases hjudged with
  | stale e hstale => exact ⟨nofun, fun ⟨hlive, _⟩ => absurd hlive hstale⟩
  | clean hlive hnone => exact ⟨fun _ => ⟨hlive, hnone⟩, fun _ => rfl⟩
  | violations _ hbreach => exact ⟨nofun, fun ⟨_, hnone⟩ => absurd hbreach (hnone _ _)⟩

/-- Where a run ends clean, every rule is about some module of the workspace. -/
theorem Surveys.rules_constrain (hsurveys : Surveys process args metadata scanner)
    (hedges : args.edges = false)
    (hload : load process.from_str process.read_to_string args.rules = .ok file)
    (hclean : (main process).2 = .ok 0) : ∀ rule ∈ file.rules, ∃ pattern ∈ rule.from_modules,
      ∃ path, WorkspaceWrites process.sources metadata (.Module path) ∧ Accepts pattern path := by
  intro rule hrule
  obtain ⟨hlive, _⟩ := (hsurveys.clean_iff hedges hload).mp hclean
  obtain ⟨text, hparse⟩ := exists_parse_of_load hload
  obtain ⟨_, hfrom⟩ := (parse_eq_ok_iff.mp hparse).2 rule hrule
  obtain ⟨pattern, hpattern⟩ := List.exists_mem_of_ne_nil _ hfrom
  exact ⟨pattern, hpattern, hlive rule hrule pattern hpattern⟩

/-- A run ends with the status that it has. -/
theorem main_of_exits {status : Nat} (hexits : Exits process status) :
    (main process).2 = .ok status := by
  rw [main_eq_status_of]
  cases hexits with
  | arguments hargs => simp [run, hargs, status_of]
  | metadata hargs hmetadata => simp [run, hargs, hmetadata, status_of]
  | scan hargs hmetadata hscan => simp [run, hargs, hmetadata, build_model, hscan, status_of]
  | edges hsurveys hedges =>
    rw [hsurveys.run_eq, run_on, hedges]
    rfl
  | rules hsurveys hedges hload =>
    rw [hsurveys.run_eq, run_on, hedges, hload]
    rfl
  | stale hsurveys hedges hload hstale =>
    have hjudged := hsurveys.judged hedges hload
    generalize (run process).2 = answer at hjudged
    cases hjudged with
    | stale e _ => rfl
    | clean hlive _ => exact absurd hlive hstale
    | violations hlive _ => exact absurd hlive hstale
  | clean hsurveys hedges hload hlive hnone =>
    rw [← main_eq_status_of]
    exact (hsurveys.clean_iff hedges hload).mpr ⟨hlive, hnone⟩
  | violations hsurveys hedges hload hlive hbreach =>
    have hjudged := hsurveys.judged hedges hload
    generalize (run process).2 = answer at hjudged
    cases hjudged with
    | stale e hstale => exact absurd hlive hstale
    | clean _ hnone => exact absurd hbreach (hnone _ _)
    | violations _ _ => rfl

/-- One whose scan dies dies. -/
theorem main_of_dies (hdies : Dies process) : (main process).2 = .panic := by
  obtain ⟨args, metadata, hargs, hmetadata, hscan⟩ := hdies
  simp [main_eq_status_of, run, hargs, hmetadata, build_model, hscan, status_of]

/-- A run ends with the status that its workspace and its rules give it: clean
only where every module of the workspace keeps to every rule, and no rule is
about none. It ends with no other, but may die scanning the workspace. -/
theorem main_exits_iff (process : Process) :
    (∀ status, (main process).2 = .ok status ↔ Exits process status) ∧
      ((main process).2 = .panic ↔ Dies process) := by
  obtain ⟨ended, hexits⟩ | hdies := exits_or_dies process
  · have hmain := main_of_exits hexits
    refine ⟨fun status => ⟨fun hstatus => ?_, main_of_exits⟩, ⟨fun hpanic => ?_, main_of_dies⟩⟩
    · obtain rfl := Outcome.ok.inj (hmain.symm.trans hstatus)
      exact hexits
    · exact absurd (hmain.symm.trans hpanic) nofun
  · have hmain := main_of_dies hdies
    refine ⟨fun status => ⟨fun hstatus => ?_, main_of_exits⟩, ⟨fun _ => hdies, main_of_dies⟩⟩
    exact absurd (hmain.symm.trans hstatus) nofun

omit [Alphanumeric] in
/-- No two violations are one where no two rules are: the edges of a model are
each there once. -/
theorem nodup_check (hrules : file.rules.Nodup) : (check file scanner.finish.1).Nodup := by
  have hedges : scanner.finish.1.edges.Nodup := scanner.ascending_edges.nodup
  refine List.nodup_flatMap.mpr ⟨fun edge _ => ?_, hedges.imp fun hne => ?_⟩
  · split
    · exact List.nodup_nil
    · exact .map (fun rule other heq => (Violation.mk.inj heq).1) (hrules.filter _)
  · intro violation hfirst hsecond
    refine hne ?_
    have hedge {edge : Edge} (hmem : violation ∈
        if edge.from_module = edge.to_target then []
        else (file.rules.filter (breaks · edge scanner.finish.1)).map fun rule => { rule, edge }) :
        violation.edge = edge := by
      split at hmem
      · exact absurd hmem List.not_mem_nil
      · obtain ⟨rule, _, rfl⟩ := List.mem_map.mp hmem
        rfl
    exact (hedge hfirst).symm.trans (hedge hsecond)

/-- A run that finds violations reports just those that its check finds, each
once if no rule is there twice, after the warnings of its scan, and prints
nothing else. -/
theorem main_reports_violations (hmain : (main process).2 = .ok 1) :
    ∃ args metadata scanner file violations, Surveys process args metadata scanner ∧
      load process.from_str process.read_to_string args.rules = .ok file ∧
      violations = check file scanner.finish.1 ∧
      (∀ rule edge, { rule, edge } ∈ violations ↔
        Breach process.sources metadata scanner file rule edge) ∧
      (file.rules.Nodup → violations.Nodup) ∧
      (main process).1.stdout = [] ∧ (main process).1.stderr =
        scanner.finish.2.map ("archlint: warning: " ++ ·) ++
          violations_line args.rules violations :: violations.map violation_line := by
  have hexits := ((main_exits_iff process).1 1).mp hmain
  cases hexits with
  | violations hsurveys hedges hload hlive hbreach =>
    rename_i args metadata scanner file rule edge
    refine ⟨args, metadata, scanner, file, check file scanner.finish.1, hsurveys, hload, rfl,
      fun rule edge => mem_check_iff_breach hsurveys.exact, nodup_check, ?_⟩
    have hrun := hsurveys.run_eq_judge hedges hload
    have hlive' := (unmatched_from_eq_nil_iff hsurveys.exact).mpr hlive
    have hsome : check file scanner.finish.1 ≠ [] := fun hnil =>
      (check_eq_nil_iff hsurveys.exact).mp hnil _ _ hbreach
    have hjudge : judge (surveyed scanner.finish.2) args.rules file scanner.finish.1 =
        (((surveyed scanner.finish.2).eprintln (violations_line args.rules
          (check file scanner.finish.1))).eprintln_all
            ((check file scanner.finish.1).map violation_line), .ok false) := by
      simp [judge, hlive', hsome]
    rw [main, hrun, hjudge]
    refine ⟨rfl, ?_⟩
    simp [Output.eprintln, Output.eprintln_all, surveyed]

end

end

section

/-- A run over the shop and its shelf, with the rule that permits nothing. -/
def shelf.process : Process :=
  { args := [], metadata := fun _ => .ok (shelf.metadata none), sources := shelf.tested, stack := 1
    read_to_string := fun _ => .ok "", from_str := fun _ => .ok { rules := [permits_nothing] } }

/-- The shop depends on its shelf, which the rule does not permit. -/
theorem shelf.breach (scanner : Scanner) : Breach shelf.tested (shelf.metadata none) scanner
    { rules := [permits_nothing] } permits_nothing
    (manifest_edge (.new (shelf.metadata none).workspace_root) (shelf.shop none)
      (shelf.dependency none)) := by
  have hshop : shelf.shop none ∈ (shelf.metadata none).packages := by simp [shelf.metadata]
  have hdep : shelf.dependency none ∈ (shelf.shop none).dependencies := by simp [shelf.shop]
  have haccepts : Accepts "**" "shop" := matches_path_iff.mp (matches_everything (by decide))
  refine ⟨List.mem_singleton_self _, .inl (.manifest hshop hdep .dependency), by decide, ?_⟩
  exact .unlisted ⟨.inl rfl, "**", List.mem_singleton_self _, haccepts⟩ rfl (.inr (by decide))
    fun pattern hpattern => absurd hpattern List.not_mem_nil

theorem shelf.exits : Exits shelf.process 1 := by
  obtain ⟨scanner, hscan⟩ : ∃ scanner,
    scan_workspace shelf.tested 1 (shelf.metadata none) = .ok scanner := ⟨_, rfl⟩
  have hshop : shelf.shop none ∈ (shelf.metadata none).packages := by simp [shelf.metadata]
  have hlive : Live shelf.tested (shelf.metadata none) { rules := [permits_nothing] } := by
    intro rule hrule pattern hpattern
    obtain rfl := List.mem_singleton.mp hrule
    obtain rfl := List.mem_singleton.mp hpattern
    exact ⟨"shop", .target hshop ⟨[], [], rfl, by simp⟩ .module,
      matches_path_iff.mp (matches_everything (by decide))⟩
  exact Exits.violations ⟨rfl, rfl, hscan⟩ rfl rfl hlive (shelf.breach scanner)

theorem main_reports_violations_shelf : ∃ (warnings : List String) (violations : List Violation),
    violations.Nodup ∧ violations ≠ [] ∧ (main shelf.process).1.stdout = [] ∧
      (main shelf.process).1.stderr = warnings.map ("archlint: warning: " ++ ·) ++
        violations_line "archlint.toml" violations :: violations.map violation_line := by
  obtain ⟨args, metadata, scanner, file, violations, hsurveys, hload, _, hbreach, honce, hstdout,
    hstderr⟩ := main_reports_violations (main_of_exits shelf.exits)
  obtain rfl : Args.default = args := Except.ok.inj hsurveys.parsed
  obtain rfl : shelf.metadata none = metadata := Except.ok.inj hsurveys.described
  obtain rfl : { rules := [permits_nothing] } = file := Except.ok.inj hload
  exact ⟨scanner.finish.2, violations, honce (List.nodup_singleton _),
    List.ne_nil_of_mem ((hbreach _ _).mpr (shelf.breach scanner)), hstdout, hstderr⟩

end

end archlint
