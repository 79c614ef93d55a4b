import AngzarrRouter.Archlint.Scan

open text archlint.model

namespace archlint.scan

def parent_of (module root : String) : String :=
  if module = root then root
  else
    match rsplit_once "::" module with
    | some (parent, _) => parent
    | none => root

def join (head : String) (rest : List String) : String := "::".intercalate (head :: rest)

/-- A module's alias of a name, where another alias may be followed: not too
many of them were, and the module is `inside` the crate they are followed in. -/
def ModuleInfo.alias_of (info : ModuleInfo) (name : String) (depth : Nat) (inside : Bool) :
    Option (List String) :=
  (info.aliases[name]?).filter fun _ => depth < ALIAS_DEPTH && inside

/-- An alias is followed where there is one, and while more may be. -/
theorem ModuleInfo.alias_of_eq_some_iff {info : ModuleInfo} {name : String} {depth : Nat}
    {inside : Bool} {path : List String} :
    info.alias_of name depth inside = some path ↔
      info.aliases[name]? = some path ∧ depth < ALIAS_DEPTH ∧ inside = true := by
  simp [ModuleInfo.alias_of, Option.filter_eq_some_iff]

/-- Following an alias leaves fewer to follow. -/
theorem ModuleInfo.aliases_left {info : ModuleInfo} {name : String} {depth : Nat} {inside : Bool}
    {path : List String} (halias : info.alias_of name depth inside = some path) :
    ALIAS_DEPTH - (depth + 1) < ALIAS_DEPTH - depth := by
  obtain ⟨_, hdepth, _⟩ := alias_of_eq_some_iff.mp halias
  omega

namespace Scanner

/-- Whether code under a crate's root may name a crate. -/
def is_crate (self : Scanner) (root name : String) : Bool :=
  (self.known[root]?).any (·.contains name) || self.workspace_crates.contains name

mutual

/-- Resolves a path written in a module to the deepest workspace module it
names, or to the external path as written. Aliases are followed only inside
`home`, the root of the referencing crate. -/
def resolve (self : Scanner) (module : String) (segs : List String) (leading_colon : Bool)
    (home : String) (depth : Nat) : Option String :=
  match self.modules[module]?, segs with
  | some info, first :: rest =>
    if leading_colon then self.enter_crate first rest home depth
    else if first = "crate" then some (self.walk info.root rest home depth)
    else if first = "self" then some (self.walk module rest home depth)
    else if first = "super" then some (self.walk (parent_of module info.root) rest home depth)
    else if info.children.contains first then
      some (self.walk (child_path module first) rest home depth)
    else
      match _halias : info.alias_of first depth true with
      | some path =>
        match self.resolve module path false home (depth + 1) with
        | some target => self.continue_from target rest home depth
        | none => none
      | none => if self.is_crate info.root first then self.enter_crate first rest home depth else none
  | _, _ => none
termination_by (ALIAS_DEPTH - depth, 2, 0)
decreasing_by
  all_goals first
    | exact Prod.Lex.left _ _ (ModuleInfo.aliases_left _halias)
    | exact Prod.Lex.right _ (Prod.Lex.left _ _ (by decide))

def enter_crate (self : Scanner) (name : String) (rest : List String) (home : String)
    (depth : Nat) : Option String :=
  if self.workspace_crates.contains name && self.modules.contains name then
    some (self.walk name rest home depth)
  else some (join name rest)
termination_by (ALIAS_DEPTH - depth, 1, 0)
decreasing_by exact Prod.Lex.right _ (Prod.Lex.left _ _ (by decide))

def continue_from (self : Scanner) (target : String) (rest : List String) (home : String)
    (depth : Nat) : Option String :=
  if self.modules.contains target then some (self.walk target rest home depth)
  else some (join target rest)
termination_by (ALIAS_DEPTH - depth, 1, 0)
decreasing_by exact Prod.Lex.right _ (Prod.Lex.left _ _ (by decide))

/-- Descends from a module through a path while each segment names a child
module (or, inside `home`, an alias of one); stops at the first item. -/
def walk (self : Scanner) (cur : String) (path : List String) (home : String) (depth : Nat) :
    String :=
  match self.modules[cur]?, path with
  | some info, seg :: rest =>
    if seg = "super" then self.walk (parent_of cur info.root) rest home depth
    else if seg = "self" then self.walk cur rest home depth
    else if info.children.contains seg then self.walk (child_path cur seg) rest home depth
    else
      match _halias : info.alias_of seg depth (info.root = home) with
      | some path =>
        match self.resolve cur path false home (depth + 1) with
        | some target => (self.continue_from target rest home (depth + 1)).getD cur
        | none => cur
      | none => cur
  | _, _ => cur
termination_by (ALIAS_DEPTH - depth, 0, path.length)
decreasing_by
  all_goals first
    | exact Prod.Lex.left _ _ (ModuleInfo.aliases_left _halias)
    | exact Prod.Lex.right _ (Prod.Lex.right _ (Nat.lt_succ_self _))

end

section

variable {self : Scanner} {module cur home seg first : String} {rest : List String} {depth : Nat}
  {info : ModuleInfo}

@[simp] theorem walk_nil : self.walk cur [] home depth = cur := by
  unfold walk
  split
  · rename_i heq
    cases heq
  · rfl

/-- Behind `::`, a path enters a crate. -/
theorem resolve_rooted (hmodule : self.modules[module]? = some info) :
    self.resolve module (first :: rest) true home depth = self.enter_crate first rest home depth := by
  conv_lhs => unfold resolve
  rw [hmodule]
  dsimp only
  rw [if_pos rfl]

/-- A walk stays where there is no module. -/
theorem walk_of_unknown (hcur : self.modules[cur]? = none) : self.walk cur rest home depth = cur := by
  unfold walk
  rw [hcur]

/-- A walk takes a keyword or a child, or follows an alias, or ends. -/
theorem walk_cons (hcur : self.modules[cur]? = some info) :
    self.walk cur (seg :: rest) home depth =
      if seg = "super" then self.walk (parent_of cur info.root) rest home depth
      else if seg = "self" then self.walk cur rest home depth
      else if info.children.contains seg then self.walk (child_path cur seg) rest home depth
      else
        match info.alias_of seg depth (info.root = home) with
        | some path =>
          match self.resolve cur path false home (depth + 1) with
          | some target => (self.continue_from target rest home (depth + 1)).getD cur
          | none => cur
        | none => cur := by
  conv_lhs => unfold walk
  rw [hcur]
  dsimp only
  cases info.alias_of seg depth (info.root = home) <;> rfl

/-- A path begins with a keyword, a child, an alias or a crate. -/
theorem resolve_cons (hmodule : self.modules[module]? = some info) :
    self.resolve module (first :: rest) false home depth =
      if first = "crate" then some (self.walk info.root rest home depth)
      else if first = "self" then some (self.walk module rest home depth)
      else if first = "super" then some (self.walk (parent_of module info.root) rest home depth)
      else if info.children.contains first then
        some (self.walk (child_path module first) rest home depth)
      else
        match info.alias_of first depth true with
        | some path =>
          match self.resolve module path false home (depth + 1) with
          | some target => self.continue_from target rest home depth
          | none => none
        | none =>
          if self.is_crate info.root first then self.enter_crate first rest home depth else none := by
  conv_lhs => unfold resolve
  rw [hmodule]
  dsimp only
  rw [if_neg Bool.false_ne_true]
  cases info.alias_of first depth true <;> rfl

end

/-- The root of the crate a reference is written in. -/
def home_of (self : Scanner) (r : RawRef) : String :=
  ((self.modules[r.module]?).map ModuleInfo.root).getD ""

/-- What a reference resolves to. -/
def ref_target (self : Scanner) (r : RawRef) : Option String :=
  self.resolve r.module r.segs r.leading_colon (self.home_of r) 0

/-- The edge of a reference to a target. -/
def ref_edge (self : Scanner) (r : RawRef) (to_target : String) : Edge :=
  { from_module := r.module, to_target, scope := r.scope, file := self.relative r.file
    line := r.line, via := "::".intercalate r.segs }

def finish (self : Scanner) : Model × List String :=
  let found := self.refs.flatMap fun r =>
    match self.ref_target r with
    | some to_target => if to_target ≠ r.module then [self.ref_edge r to_target] else []
    | none => []
  let edges := (self.edges ++ found).mergeSort fun a b => (compare a b).isLE
  let model := { modules := self.modules.map fun _ info => self.relative info.file
                 workspace_crates := self.workspace_crates, edges := edges.eraseReps }
  (model, self.warnings)

theorem mem_eraseReps_loop {α : Type} [BEq α] [LawfulBEq α] (a b : α) (rest kept : List α) :
    b ∈ List.eraseRepsBy.loop (· == ·) a rest kept ↔ b ∈ kept ∨ b = a ∨ b ∈ rest := by
  induction rest generalizing a kept with
  | nil =>
    rw [List.eraseRepsBy.loop, List.mem_reverse, List.mem_cons]
    simp [or_comm]
  | cons c rest ih =>
    rw [List.eraseRepsBy.loop]
    split
    · rename_i hsame
      have heq : a = c := by simpa using hsame
      rw [ih, heq]
      simp
    · rw [ih, List.mem_cons, List.mem_cons]
      tauto

/-- Erasing repetitions loses nothing. -/
theorem mem_eraseReps {α : Type} [BEq α] [LawfulBEq α] {b : α} {items : List α} :
    b ∈ items.eraseReps ↔ b ∈ items := by
  cases items with
  | nil => rfl
  | cons a rest => simp [List.eraseReps, List.eraseRepsBy, mem_eraseReps_loop]

/-- The model's edges are those recorded while scanning and one for each
reference that resolves to another module than its own. -/
theorem mem_finish_edges {self : Scanner} {edge : Edge} :
    edge ∈ self.finish.1.edges ↔ edge ∈ self.edges ∨ ∃ r ∈ self.refs, ∃ to_target,
      self.ref_target r = some to_target ∧ to_target ≠ r.module ∧ edge = self.ref_edge r to_target := by
  simp only [finish, mem_eraseReps, List.mem_mergeSort, List.mem_append, List.mem_flatMap]
  refine or_congr_right (exists_congr fun r => and_congr_right fun _ => ?_)
  cases self.ref_target r with
  | none => simp
  | some to_target =>
    by_cases hself : to_target = r.module
    · simp [hself]
    · simp [hself]

end Scanner

end archlint.scan
