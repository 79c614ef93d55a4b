import AngzarrRouter.Archlint.Model

open text archlint.model

namespace archlint.rules

/-- Which edges a rule applies to. -/
inductive ScopeSel where
  | All
  | Lib
  | Test
deriving DecidableEq, Repr

def ScopeSel.covers (self : ScopeSel) (scope : Scope) : Bool :=
  match self with
  | .All => true
  | .Lib => decide (scope = .Lib)
  | .Test => decide (scope = .Test)

/-- One rule: the modules it constrains (`from`, in the source), the only
workspace targets it permits them, if it says, and the targets it never does. -/
structure Rule where
  name : String
  why : String
  from_modules : List String
  scope : ScopeSel
  allow : Option (List String)
  deny : List String
deriving DecidableEq, Repr

set_option linter.dupNamespace false in
structure RulesFile where
  rules : List Rule

/-- One edge that breaks one rule. -/
structure Violation where
  rule : Rule
  edge : Edge
deriving DecidableEq, Repr

section

variable (from_str : String → Except String RulesFile)

/-- One pass of `parse`'s loop over the rules. -/
def parse_rule (rule : Rule) : Except String Unit :=
  if rule.allow.isNone && rule.deny.isEmpty then
    .error ("rule `" ++ rule.name ++ "` has neither `allow` nor `deny`")
  else if rule.from_modules.isEmpty then .error ("rule `" ++ rule.name ++ "` has an empty `from`")
  else .ok ()

/-- `parse`, over `toml`'s reading of a text. -/
def parse (text : String) : Except String RulesFile :=
  match from_str text with
  | .error e => .error e
  | .ok file =>
    match file.rules.forM parse_rule with
    | .error e => .error e
    | .ok _ => .ok file

/-- `load`, of a path as its text, over the disk. -/
def load (read_to_string : String → Except String String) (path : String) :
    Except String RulesFile :=
  match read_to_string path with
  | .error e => .error (path ++ ": " ++ e)
  | .ok text =>
    match parse from_str text with
    | .error e => .error (path ++ ": " ++ e)
    | .ok file => .ok file

end

/-- Replaces a leading `self` segment of a pattern with the source module. -/
def expand_self (pattern from_module : String) : String :=
  match strip_prefix "self" pattern with
  | some rest =>
    if rest = "" then from_module
    else if starts_with "::" rest then from_module ++ rest
    else pattern
  | none => pattern

/-- The source's `split`: the pieces of a text that are not empty. -/
def segments (s sep : String) : List String := (split sep s).filter fun seg => seg ≠ ""

/-- Wildcard match of one segment: `*` matches any run of characters. -/
def segment_match (pattern seg : String) : Bool :=
  match _hstar : split_once "*" pattern with
  | none => pattern = seg
  | some (start, rest) =>
    match strip_prefix start seg with
    | none => false
    | some after =>
      (List.range (after.toList.length + 1)).any fun i =>
        segment_match rest (.ofList (after.toList.drop i))
termination_by pattern.toList.length
decreasing_by exact split_once_length (by decide) _hstar

def segments_match : List String → List String → Bool
  | [], path => path.isEmpty
  | seg :: rest, path =>
    if seg = "**" then
      (List.range (path.length + 1)).any fun i => segments_match rest (path.drop i)
    else
      match path with
      | head :: tail => segment_match seg head && segments_match rest tail
      | [] => false

/-- Whether a path matches a pattern. -/
def matches_path (pattern path : String) : Bool :=
  match strip_prefix "path:" pattern, strip_prefix "path:" path with
  | some p, some q => segments_match (segments p "/") (segments q "/")
  | none, none => segments_match (segments pattern "::") (segments path "::")
  | _, _ => false

/-- The `from` patterns that match no module of the model, each with its
rule's name. -/
def unmatched_from (file : RulesFile) (model : Model) : List (String × String) :=
  file.rules.flatMap fun rule =>
    (rule.from_modules.filter fun pattern => !model.modules.keys.any (matches_path pattern)).map
      fun pattern => (rule.name, pattern)

/-- Whether a pattern of an edge's rule matches its target. -/
def hit (edge : Edge) (pattern : String) : Bool :=
  matches_path (expand_self pattern edge.from_module) edge.to_target

def breaks (rule : Rule) (edge : Edge) (model : Model) : Bool :=
  if !rule.scope.covers edge.scope || !rule.from_modules.any (matches_path · edge.from_module) then
    false
  else if rule.deny.any (hit edge) then true
  else
    match rule.allow with
    | some allow => model.is_internal edge.to_target && !allow.any (hit edge)
    | none => false

/-- Every edge of the model that breaks a rule, but for those from a module to
itself. -/
def check (file : RulesFile) (model : Model) : List Violation :=
  model.edges.flatMap fun edge =>
    if edge.from_module = edge.to_target then []
    else (file.rules.filter (breaks · edge model)).map fun rule => { rule, edge }

theorem mem_check_iff {file : RulesFile} {model : Model} {rule : Rule} {edge : Edge} :
    { rule, edge } ∈ check file model ↔ edge ∈ model.edges ∧ edge.from_module ≠ edge.to_target ∧
      rule ∈ file.rules ∧ breaks rule edge model = true := by
  simp only [check, List.mem_flatMap]
  constructor
  · rintro ⟨other, hother, hviolation⟩
    split at hviolation
    · exact absurd hviolation List.not_mem_nil
    · rename_i hapart
      obtain ⟨found, hfound, heq⟩ := List.mem_map.mp hviolation
      obtain ⟨rfl, rfl⟩ := Violation.mk.inj heq
      obtain ⟨hrule, hbreaks⟩ := List.mem_filter.mp hfound
      exact ⟨hother, hapart, hrule, hbreaks⟩
  · rintro ⟨hedge, hapart, hrule, hbreaks⟩
    refine ⟨edge, hedge, ?_⟩
    rw [if_neg hapart]
    exact List.mem_map.mpr ⟨rule, List.mem_filter.mpr ⟨hrule, hbreaks⟩, rfl⟩

end archlint.rules
