import AngzarrRouter.Archlint.Scan

open text archlint.model archlint.syntax

namespace archlint.scan

/-- What code names: a path, or a file by an `include!` macro. -/
inductive Mention where
  | Path (segs : List String) (leading_colon : Bool) (line : Nat)
  | File (line : Nat) (lit : String)
deriving DecidableEq, Repr

/-- Attributes around code, and whether the visitor reads them there. -/
structure Gate where
  attrs : List Attribute
  read : Bool

def INCLUDES : List String := ["include", "include_str", "include_bytes"]

/-- What the code of a node names, where a visitor comes to it, under the
attributes that are around it there, the outermost first. -/
inductive Mentions : Node → List Gate → Mention → Prop where
  | path {segments : List Ident} {leading_colon : Bool} {line : Nat} {arguments : List Node}
    (hpath : 1 < segments.length ∨ leading_colon = true) :
    Mentions (.Path segments leading_colon line arguments) []
      (.Path (segments.map Ident.to_string) leading_colon line)
  | argument {segments : List Ident} {leading_colon : Bool} {line : Nat} {arguments : List Node}
    {node : Node} {gates : List Gate} {mention : Mention} (hnode : node ∈ arguments)
    (hinside : Mentions node gates mention) :
    Mentions (.Path segments leading_colon line arguments) gates mention
  | leaf {u : ItemUse} {segs : List String} {imported : Option String}
    (hleaf : (segs, imported) ∈ flatten_use u.tree []) :
    Mentions (.ItemUse u) [] (.Path segs u.leading_colon u.line)
  | item {attrs : List Attribute} {children : List Node} {node : Node}
    {gates : List Gate} {mention : Mention} (hnode : node ∈ children)
    (hinside : Mentions node gates mention) :
    Mentions (.Item attrs children) (⟨attrs, true⟩ :: gates) mention
  | impl_item {attrs : List Attribute} {children : List Node} {node : Node}
    {gates : List Gate} {mention : Mention} (hnode : node ∈ children)
    (hinside : Mentions node gates mention) :
    Mentions (.ImplItem attrs children) (⟨attrs, true⟩ :: gates) mention
  | macro_file {segments : List Ident} {leading_colon : Bool} {line : Nat}
    {arguments body : List Node} {lit : String} {parses : Bool}
    (hname : (segments.getLast?.map Ident.to_string).getD "" ∈ INCLUDES) :
    Mentions (.Macro segments leading_colon line arguments (some lit) parses body) [] (.File line lit)
  | macro_arg {segments : List Ident} {leading_colon : Bool} {line : Nat}
    {arguments body : List Node} {literal : Option String} {node : Node} {gates : List Gate}
    {mention : Mention} (hnode : node ∈ body) (hinside : Mentions node gates mention) :
    Mentions (.Macro segments leading_colon line arguments literal true body) gates mention
  | macro_path {segments : List Ident} {leading_colon : Bool} {line : Nat}
    {arguments body : List Node} {literal : Option String} {parses : Bool}
    (hpath : 1 < segments.length ∨ leading_colon = true) :
    Mentions (.Macro segments leading_colon line arguments literal parses body) []
      (.Path (segments.map Ident.to_string) leading_colon line)
  | macro_argument {segments : List Ident} {leading_colon : Bool} {line : Nat}
    {arguments body : List Node} {literal : Option String} {parses : Bool} {node : Node}
    {gates : List Gate} {mention : Mention} (hnode : node ∈ arguments)
    (hinside : Mentions node gates mention) :
    Mentions (.Macro segments leading_colon line arguments literal parses body) gates mention
  | other {attrs : List Attribute} {children : List Node} {node : Node} {gates : List Gate}
    {mention : Mention} (hnode : node ∈ children) (hinside : Mentions node gates mention) :
    Mentions (.Other attrs children) (⟨attrs, false⟩ :: gates) mention

/-- The reference that a path is, written in a module's file. -/
def path_ref (ctx : Ctx) (scope : Scope) (segs : List String) (leading_colon : Bool) (line : Nat) :
    RawRef :=
  { module := ctx.module, scope, segs, leading_colon, file := ctx.file, line }

section

variable [Alphanumeric]

/-- The scope of code under attributes: a test's, if some that are read gate it
so. -/
def gated (scope : Scope) (gates : List Gate) : Scope :=
  if gates.any (fun gate => gate.read && is_cfg_test gate.attrs) then .Test else scope

@[simp] theorem gated_nil (scope : Scope) : gated scope [] = scope := rfl

/-- Attributes that are read may make a test's scope for all the code in them. -/
theorem gated_read (scope : Scope) (attrs : List Attribute) (gates : List Gate) :
    gated scope (⟨attrs, true⟩ :: gates) = gated (if is_cfg_test attrs then .Test else scope) gates := by
  unfold gated
  rw [List.any_cons]
  cases is_cfg_test attrs <;> simp

/-- Attributes that are not read make no scope. -/
theorem gated_unread (scope : Scope) (attrs : List Attribute) (gates : List Gate) :
    gated scope (⟨attrs, false⟩ :: gates) = gated scope gates := by
  unfold gated
  rw [List.any_cons, Bool.false_and, Bool.false_or]

end

namespace Collector

variable [Alphanumeric]

/-- A visit of code that names what it is said to: it collects just that, and
leaves the collector in the scope that it was in. -/
structure Visits (before after : Collector) (named : List Gate → Mention → Prop) :
    Prop where
  ctx : after.ctx = before.ctx
  scopes : after.scopes = before.scopes
  refs : ∀ r, r ∈ after.refs ↔ r ∈ before.refs ∨ ∃ gates segs leading_colon line,
    named gates (.Path segs leading_colon line) ∧
      r = path_ref before.ctx (gated before.scope gates) segs leading_colon line
  includes : ∀ line lit, (line, lit) ∈ after.includes ↔
    (line, lit) ∈ before.includes ∨ ∃ gates, named gates (.File line lit)

section

variable {before middle after : Collector} {named more : List Gate → Mention → Prop}

theorem Visits.refl (c : Collector) : Visits c c fun _ _ => False := by
  refine ⟨rfl, rfl, fun r => ?_, fun line lit => ?_⟩ <;> simp

theorem Visits.congr (hvisits : Visits before after named)
    (hsame : ∀ gates mention, named gates mention ↔ more gates mention) :
    Visits before after more := by
  obtain rfl : named = more := funext₂ fun gates mention => propext (hsame gates mention)
  exact hvisits

/-- One visit after another records what either names. -/
theorem Visits.trans (hfirst : Visits before middle named) (hrest : Visits middle after more) :
    Visits before after fun gates mention => named gates mention ∨ more gates mention := by
  have hscope : middle.scope = before.scope := by rw [scope, hfirst.scopes, scope]
  refine ⟨hrest.ctx.trans hfirst.ctx, hrest.scopes.trans hfirst.scopes, fun r => ?_, fun line lit => ?_⟩
  · rw [hrest.refs, hfirst.refs, hfirst.ctx, hscope]
    simp only [or_and_right, exists_or, or_assoc]
  · rw [hrest.includes, hfirst.includes]
    simp only [exists_or, or_assoc]

/-- A visit of what one gate is around. -/
theorem Visits.with_attrs {c : Collector} (attrs : List Attribute) {f : Collector → Collector}
    (hf : ∀ c : Collector, Visits c (f c) named) :
    Visits c (c.with_attrs attrs f) fun gates mention =>
      ∃ inner, gates = ⟨attrs, true⟩ :: inner ∧ named inner mention := by
  have hinside := hf { c with scopes := (if is_cfg_test attrs then .Test else c.scope) :: c.scopes }
  refine ⟨hinside.ctx, congrArg List.tail hinside.scopes, fun r => ?_, fun line lit => ?_⟩
  · rw [Collector.with_attrs]
    refine (hinside.refs r).trans (or_congr Iff.rfl ?_)
    constructor
    · rintro ⟨gates, segs, leading_colon, line, hnamed, rfl⟩
      refine ⟨_, segs, leading_colon, line, ⟨gates, rfl, hnamed⟩, ?_⟩
      rw [gated_read]
      rfl
    · rintro ⟨_, segs, leading_colon, line, ⟨gates, rfl, hnamed⟩, rfl⟩
      refine ⟨gates, segs, leading_colon, line, hnamed, ?_⟩
      rw [gated_read]
      rfl
  · rw [Collector.with_attrs]
    refine (hinside.includes line lit).trans (or_congr Iff.rfl ?_)
    simp

end

theorem visits_push (c : Collector) (segs : List String) (leading_colon : Bool) (line : Nat) :
    Visits c (c.push segs leading_colon line) fun gates mention =>
      gates = [] ∧ mention = .Path segs leading_colon line := by
  refine ⟨rfl, rfl, fun r => ?_, fun line lit => ?_⟩
  · rw [push, List.mem_append, List.mem_singleton]
    refine or_congr Iff.rfl ⟨?_, ?_⟩
    · rintro rfl
      exact ⟨[], segs, leading_colon, line, ⟨rfl, rfl⟩, rfl⟩
    · rintro ⟨_, _, _, _, ⟨rfl, hmention⟩, rfl⟩
      obtain ⟨rfl, rfl, rfl⟩ := Mention.Path.inj hmention
      rfl
  · simp [push]

/-- A path is named if it is more than an identifier. -/
theorem visits_push_path (c : Collector) (segments : List Ident) (leading_colon : Bool)
    (line : Nat) : Visits c (c.push_path segments leading_colon line) fun gates mention =>
      (1 < segments.length ∨ leading_colon = true) ∧ gates = [] ∧
        mention = .Path (segments.map Ident.to_string) leading_colon line := by
  unfold push_path
  split
  · rename_i hpath
    refine (c.visits_push ..).congr fun gates mention => ?_
    simp [show 1 < segments.length ∨ leading_colon = true by simpa using hpath]
  · rename_i hpath
    refine (Visits.refl c).congr fun gates mention => ?_
    simp [show ¬ (1 < segments.length ∨ leading_colon = true) by simpa using hpath]

/-- A `use` names each of its leaves. -/
theorem visits_item_use (c : Collector) (u : ItemUse) :
    Visits c (c.visit_item_use u) fun gates mention => ∃ leaf ∈ flatten_use u.tree [],
      gates = [] ∧ mention = .Path leaf.1 u.leading_colon u.line := by
  unfold visit_item_use
  generalize flatten_use u.tree [] = leaves
  induction leaves generalizing c with
  | nil =>
    refine (Visits.refl c).congr fun gates mention => ?_
    simp
  | cons leaf leaves ih =>
    refine ((c.visits_push ..).trans (ih _)).congr fun gates mention => ?_
    rw [List.exists_mem_cons_iff]

/-- A macro names a file if it is an `include!` of a literal. -/
theorem visits_push_include (c : Collector) (segments : List Ident) (line : Nat)
    (literal : Option String) :
    Visits c (c.push_include segments line literal) fun gates mention =>
      ∃ lit, literal = some lit ∧ (segments.getLast?.map Ident.to_string).getD "" ∈ INCLUDES ∧
        gates = [] ∧ mention = .File line lit := by
  unfold push_include
  dsimp only
  split
  · rename_i lit hname
    have hname := of_decide_eq_true hname
    refine ⟨rfl, rfl, fun r => by simp, fun found lit' => ?_⟩
    rw [List.mem_append, List.mem_singleton, Prod.mk.injEq]
    refine or_congr Iff.rfl ⟨?_, ?_⟩
    · rintro ⟨rfl, rfl⟩
      exact ⟨[], lit', rfl, hname, rfl, rfl⟩
    · rintro ⟨_, _, hlit, _, _, hmention⟩
      obtain ⟨rfl, rfl⟩ := Mention.File.inj hmention
      exact ⟨rfl, (Option.some.inj hlit).symm⟩
  · rename_i hno
    refine (Visits.refl c).congr fun gates mention => ⟨False.elim, ?_⟩
    rintro ⟨lit, rfl, hname, _⟩
    exact hno lit (decide_eq_true hname) rfl

/-- A visit of what attributes are around that it does not read. -/
theorem Visits.unread {before after : Collector} {named : List Gate → Mention → Prop}
    (attrs : List Attribute) (hvisits : Visits before after named) :
    Visits before after fun gates mention =>
      ∃ inner, gates = ⟨attrs, false⟩ :: inner ∧ named inner mention := by
  refine ⟨hvisits.ctx, hvisits.scopes, fun r => ?_, fun line lit => ?_⟩
  · rw [hvisits.refs]
    refine or_congr Iff.rfl ⟨?_, ?_⟩
    · rintro ⟨gates, segs, leading_colon, line, hnamed, rfl⟩
      refine ⟨_, segs, leading_colon, line, ⟨gates, rfl, hnamed⟩, ?_⟩
      rw [gated_unread]
    · rintro ⟨_, segs, leading_colon, line, ⟨gates, rfl, hnamed⟩, rfl⟩
      refine ⟨gates, segs, leading_colon, line, hnamed, ?_⟩
      rw [gated_unread]
  · rw [hvisits.includes]
    refine or_congr Iff.rfl ?_
    simp

/-- What some node of a list names. -/
def MentionsSome (nodes : List Node) (gates : List Gate) (mention : Mention) : Prop :=
  ∃ node ∈ nodes, Mentions node gates mention

mutual

/-- A visit collects what the code names, each path in the scope of the items
around it. -/
theorem visits (c : Collector) : ∀ node, Visits c (c.visit node) (Mentions node)
  | .Path segments leading_colon line arguments => by
    have hpath := c.visits_push_path segments leading_colon line
    refine (hpath.trans (visits_all _ arguments)).congr fun gates mention => ⟨?_, ?_⟩
    · rintro (⟨hpath, rfl, rfl⟩ | ⟨node, hnode, hinside⟩)
      · exact .path hpath
      · exact .argument hnode hinside
    · intro hmentions
      cases hmentions with
      | path hpath => exact .inl ⟨hpath, rfl, rfl⟩
      | argument hnode hinside => exact .inr ⟨_, hnode, hinside⟩
  | .ItemUse u => by
    refine (c.visits_item_use u).congr fun gates mention => ⟨?_, ?_⟩
    · rintro ⟨⟨segs, imported⟩, hleaf, rfl, rfl⟩
      exact .leaf hleaf
    · intro hmentions
      cases hmentions with
      | leaf hleaf => exact ⟨_, hleaf, rfl, rfl⟩
  | .ItemMod content => (Visits.refl c).congr fun _ _ => ⟨False.elim, nofun⟩
  | .Item attrs children => by
    refine (Visits.with_attrs attrs fun c => visits_all c children).congr fun gates mention => ⟨?_, ?_⟩
    · rintro ⟨gates, rfl, node, hnode, hinside⟩
      exact .item hnode hinside
    · intro hmentions
      cases hmentions with
      | item hnode hinside => exact ⟨_, rfl, _, hnode, hinside⟩
  | .ImplItem attrs children => by
    refine (Visits.with_attrs attrs fun c => visits_all c children).congr fun gates mention => ⟨?_, ?_⟩
    · rintro ⟨gates, rfl, node, hnode, hinside⟩
      exact .impl_item hnode hinside
    · intro hmentions
      cases hmentions with
      | impl_item hnode hinside => exact ⟨_, rfl, _, hnode, hinside⟩
  | .Macro segments leading_colon line arguments literal false body => by
    have hfile := c.visits_push_include segments line literal
    have hpath := Collector.visits_push_path (c.push_include segments line literal) segments
      leading_colon line
    refine ((hfile.trans hpath).trans (visits_all _ arguments)).congr fun gates mention => ⟨?_, ?_⟩
    · rintro ((⟨lit, rfl, hname, rfl, rfl⟩ | ⟨hpath, rfl, rfl⟩) | ⟨node, hnode, hinside⟩)
      · exact .macro_file hname
      · exact .macro_path hpath
      · exact .macro_argument hnode hinside
    · intro hmentions
      cases hmentions with
      | macro_file hname => exact .inl (.inl ⟨_, rfl, hname, rfl, rfl⟩)
      | macro_path hpath => exact .inl (.inr ⟨hpath, rfl, rfl⟩)
      | macro_argument hnode hinside => exact .inr ⟨_, hnode, hinside⟩
  | .Macro segments leading_colon line arguments literal true body => by
    have hfile := c.visits_push_include segments line literal
    have hargs := visits_all (c.push_include segments line literal) body
    have hpath := Collector.visits_push_path
      ((c.push_include segments line literal).visit_all body) segments leading_colon line
    refine (((hfile.trans hargs).trans hpath).trans (visits_all _ arguments)).congr
      fun gates mention => ⟨?_, ?_⟩
    · rintro (((⟨lit, rfl, hname, rfl, rfl⟩ | ⟨node, hnode, hinside⟩) | ⟨hpath, rfl, rfl⟩) |
        ⟨node, hnode, hinside⟩)
      · exact .macro_file hname
      · exact .macro_arg hnode hinside
      · exact .macro_path hpath
      · exact .macro_argument hnode hinside
    · intro hmentions
      cases hmentions with
      | macro_file hname => exact .inl (.inl (.inl ⟨_, rfl, hname, rfl, rfl⟩))
      | macro_arg hnode hinside => exact .inl (.inl (.inr ⟨_, hnode, hinside⟩))
      | macro_path hpath => exact .inl (.inr ⟨hpath, rfl, rfl⟩)
      | macro_argument hnode hinside => exact .inr ⟨_, hnode, hinside⟩
  | .Tokens code => (Visits.refl c).congr fun _ _ => ⟨False.elim, nofun⟩
  | .Other attrs children => by
    refine ((visits_all c children).unread attrs).congr fun gates mention => ⟨?_, ?_⟩
    · rintro ⟨gates, rfl, node, hnode, hinside⟩
      exact .other hnode hinside
    · intro hmentions
      cases hmentions with
      | other hnode hinside => exact ⟨_, rfl, _, hnode, hinside⟩

/-- Of more nodes, a visit records what one of them names. -/
theorem visits_all (c : Collector) : ∀ nodes, Visits c (c.visit_all nodes) (MentionsSome nodes)
  | [] => (Visits.refl c).congr fun _ _ => by simp [MentionsSome]
  | node :: nodes => by
    refine ((visits c node).trans (visits_all _ nodes)).congr fun gates mention => ?_
    unfold MentionsSome
    rw [List.exists_mem_cons_iff]

end

end Collector

end archlint.scan
