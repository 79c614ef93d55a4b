import AngzarrRouter.Archlint.Scan.Landing

open text archlint.model

namespace archlint.scan

/-- What a path means where it is written. -/
inductive Meaning where
  /-- More aliases lie on the way than may be followed. -/
  | deep
  | nothing
  /-- The module the path leads to, with the segments left over, the first of
  which names no module there; or a path out of the workspace. -/
  | place (target : String) (left : List String)
deriving DecidableEq, Repr

def Meaning.target : Meaning → Option String
  | .place target _ => some target
  | _ => none

/-- How paths are read behind an alias, where one may be followed. -/
structure Following where
  path : String → List String → Meaning
  on : String → List String → Meaning

/-- The module that a segment leads to from a module, where no alias does. -/
def ModuleInfo.leads (info : ModuleInfo) (module seg : String) : Option String :=
  if seg = "super" then some (parent_of module info.root)
  else if seg = "self" then some module
  else if info.children.contains seg then some (child_path module seg)
  else none

namespace Scanner

/-- Reads on where a path led. -/
def continues (self : Scanner) (on : String → List String → Meaning) (target : String)
    (rest : List String) : Meaning :=
  if self.modules.contains target then on target rest else .place (join target rest) []

/-- Reads a path that names a crate. -/
def reads_crate (self : Scanner) (on : String → List String → Meaning) (name : String)
    (rest : List String) : Meaning :=
  if self.workspace_crates.contains name && self.modules.contains name then on name rest
  else .place (join name rest) []

/-- What the rest of a path means in a module. -/
def reads_on (self : Scanner) (home : String) (fewer : Option Following) (cur : String) :
    List String → Meaning
  | [] => .place cur []
  | seg :: rest =>
    match self.modules[cur]? with
    | none => .place cur (seg :: rest)
    | some info =>
      match info.leads cur seg with
      | some next => self.reads_on home fewer next rest
      | none =>
        match info.aliases[seg]?.filter fun _ => info.root = home, fewer with
        | none, _ => .place cur (seg :: rest)
        | some _, none => .deep
        | some path, some less =>
          match less.path cur path with
          | .deep => .deep
          | .nothing => .place cur (seg :: rest)
          | .place target _ => self.continues less.on target rest

/-- What a path means that is written in a module of the crate at `home`. -/
def reads (self : Scanner) (home : String) (fewer : Option Following) (module : String)
    (segs : List String) (leading_colon : Bool) : Meaning :=
  let on := self.reads_on home fewer
  match self.modules[module]?, segs with
  | some info, first :: rest =>
    if leading_colon then self.reads_crate on first rest
    else if first = "crate" then on info.root rest
    else
      match info.leads module first with
      | some next => on next rest
      | none =>
        match info.aliases[first]?, fewer with
        | none, _ => if self.is_crate info.root first then self.reads_crate on first rest else .nothing
        | some _, none => .deep
        | some path, some less =>
          match less.path module path with
          | .deep => .deep
          | .nothing => .nothing
          | .place target _ => self.continues on target rest
  | _, _ => .nothing

/-- How paths are read behind an alias, where so many may be followed. -/
def following (self : Scanner) (home : String) : Nat → Option Following
  | 0 => none
  | aliases + 1 =>
    let fewer := self.following home aliases
    some { path := fun module segs => self.reads home fewer module segs false
           on := self.reads_on home fewer }

section

variable {self : Scanner} {home cur module seg first : String} {path rest segs : List String}
  {info : ModuleInfo} {fewer : Option Following} {depth : Nat}

theorem continues_of_mem {on : String → List String → Meaning} (hmodule : module ∈ self.modules) :
    self.continues on module rest = on module rest :=
  if_pos (Std.ExtTreeMap.contains_iff_mem.mpr hmodule)

theorem continues_of_not_mem {on : String → List String → Meaning} (hmodule : module ∉ self.modules) :
    self.continues on module rest = .place (join module rest) [] :=
  if_neg (mt Std.ExtTreeMap.contains_iff_mem.mp hmodule)

theorem reads_on_cons (hcur : self.modules[cur]? = some info) :
    self.reads_on home fewer cur (seg :: rest) =
      match info.leads cur seg with
      | some next => self.reads_on home fewer next rest
      | none =>
        match info.aliases[seg]?.filter fun _ => info.root = home, fewer with
        | none, _ => .place cur (seg :: rest)
        | some _, none => .deep
        | some path, some less =>
          match less.path cur path with
          | .deep => .deep
          | .nothing => .place cur (seg :: rest)
          | .place target _ => self.continues less.on target rest := by
  rw [reads_on, hcur]

theorem reads_rooted (hmodule : self.modules[module]? = some info) :
    self.reads home fewer module (first :: rest) true =
      self.reads_crate (self.reads_on home fewer) first rest := by
  unfold reads
  rw [hmodule]
  rfl

theorem reads_cons (hmodule : self.modules[module]? = some info) :
    self.reads home fewer module (first :: rest) false =
      if first = "crate" then self.reads_on home fewer info.root rest
      else
        match info.leads module first with
        | some next => self.reads_on home fewer next rest
        | none =>
          match info.aliases[first]?, fewer with
          | none, _ =>
            if self.is_crate info.root first then
              self.reads_crate (self.reads_on home fewer) first rest
            else .nothing
          | some _, none => .deep
          | some path, some less =>
            match less.path module path with
            | .deep => .deep
            | .nothing => .nothing
            | .place target _ => self.continues (self.reads_on home fewer) target rest := by
  unfold reads
  rw [hmodule]
  rfl

/-- A walk takes the segment that leads on, or else follows its alias. -/
theorem walk_leads (hcur : self.modules[cur]? = some info) :
    self.walk cur (seg :: rest) home depth =
      match info.leads cur seg with
      | some next => self.walk next rest home depth
      | none =>
        match info.alias_of seg depth (info.root = home) with
        | some path =>
          match self.resolve cur path false home (depth + 1) with
          | some target => (self.continue_from target rest home (depth + 1)).getD cur
          | none => cur
        | none => cur := by
  rw [walk_cons hcur]
  unfold ModuleInfo.leads
  split
  · rfl
  split
  · rfl
  split
  · rfl
  · rfl

/-- A path resolves by the segment that leads on, by an alias, or into a crate. -/
theorem resolve_leads (hmodule : self.modules[module]? = some info) :
    self.resolve module (first :: rest) false home depth =
      if first = "crate" then some (self.walk info.root rest home depth)
      else
        match info.leads module first with
        | some next => some (self.walk next rest home depth)
        | none =>
          match info.alias_of first depth true with
          | some path =>
            match self.resolve module path false home (depth + 1) with
            | some target => self.continue_from target rest home depth
            | none => none
          | none =>
            if self.is_crate info.root first then self.enter_crate first rest home depth
            else none := by
  rw [resolve_cons hmodule]
  refine if_congr Iff.rfl rfl ?_
  unfold ModuleInfo.leads
  by_cases hself : first = "self"
  · subst hself
    rfl
  rw [if_neg hself, if_neg hself]
  split
  · rfl
  split
  · rfl
  · rfl

/-- An alias may be followed while fewer than so many were. -/
theorem alias_of_of_lt (info : ModuleInfo) (name : String) (hdepth : depth < ALIAS_DEPTH) :
    info.alias_of name depth true = info.aliases[name]? := by
  cases hfound : info.aliases[name]? <;> simp [ModuleInfo.alias_of, hdepth, hfound]

theorem alias_of_of_not_lt (info : ModuleInfo) (name : String) (inside : Bool)
    (hdepth : ¬ depth < ALIAS_DEPTH) : info.alias_of name depth inside = none := by
  simp [ModuleInfo.alias_of, hdepth]

theorem following_of_lt (self : Scanner) (home : String) (hdepth : depth < ALIAS_DEPTH) :
    self.following home (ALIAS_DEPTH - depth) = some
      { path := fun module segs =>
          self.reads home (self.following home (ALIAS_DEPTH - (depth + 1))) module segs false
        on := self.reads_on home (self.following home (ALIAS_DEPTH - (depth + 1))) } := by
  rw [show ALIAS_DEPTH - depth = ALIAS_DEPTH - (depth + 1) + 1 by omega, following]

theorem following_of_not_lt (self : Scanner) (home : String) (hdepth : ¬ depth < ALIAS_DEPTH) :
    self.following home (ALIAS_DEPTH - depth) = none := by
  rw [show ALIAS_DEPTH - depth = 0 by omega, following]

end

section

variable {self : Scanner} {home target : String} {rest : List String} {depth : Nat}

/-- Walks that have followed so many aliases go where their path leads. -/
def WalksMean (self : Scanner) (home : String) (depth : Nat) : Prop :=
  ∀ ⦃cur rest⦄, self.reads_on home (self.following home (ALIAS_DEPTH - depth)) cur rest ≠ .deep →
    (self.reads_on home (self.following home (ALIAS_DEPTH - depth)) cur rest).target =
      some (self.walk cur rest home depth)

def ResolvesMean (self : Scanner) (home : String) (depth : Nat) : Prop :=
  ∀ ⦃module segs leading_colon⦄,
    self.reads home (self.following home (ALIAS_DEPTH - depth)) module segs leading_colon ≠ .deep →
    (self.reads home (self.following home (ALIAS_DEPTH - depth)) module segs leading_colon).target =
      self.resolve module segs leading_colon home depth

/-- A path that goes on from a target goes where it leads from there. -/
theorem WalksMean.continue_from (hwalks : WalksMean self home depth)
    (hshallow : self.continues (self.reads_on home (self.following home (ALIAS_DEPTH - depth)))
      target rest ≠ .deep) :
    (self.continues (self.reads_on home (self.following home (ALIAS_DEPTH - depth)))
      target rest).target = self.continue_from target rest home depth := by
  unfold continues Scanner.continue_from at *
  split
  · rename_i hthere
    rw [if_pos hthere] at hshallow
    exact hwalks hshallow
  · rfl

/-- A path goes on wherever it is. -/
theorem continue_from_eq_some (self : Scanner) (target : String) (rest : List String) (home : String)
    (depth : Nat) : ∃ stop, self.continue_from target rest home depth = some stop := by
  unfold Scanner.continue_from
  split
  · exact ⟨_, rfl⟩
  · exact ⟨_, rfl⟩

/-- So does one that enters a crate. -/
theorem enter_crate_eq_some (self : Scanner) (name : String) (rest : List String) (home : String)
    (depth : Nat) : ∃ stop, self.enter_crate name rest home depth = some stop := by
  unfold Scanner.enter_crate
  split
  · exact ⟨_, rfl⟩
  · exact ⟨_, rfl⟩

/-- A path that enters a crate goes where it leads there. -/
theorem WalksMean.enter_crate (hwalks : WalksMean self home depth)
    (hshallow : self.reads_crate (self.reads_on home (self.following home (ALIAS_DEPTH - depth)))
      target rest ≠ .deep) :
    (self.reads_crate (self.reads_on home (self.following home (ALIAS_DEPTH - depth)))
      target rest).target = self.enter_crate target rest home depth := by
  unfold reads_crate Scanner.enter_crate at *
  split
  · rename_i hscanned
    rw [if_pos hscanned] at hshallow
    exact hwalks hshallow
  · rfl

/-- Walks go where their paths lead if what is behind one more alias does. -/
theorem walksMean_step
    (hdeeper : depth < ALIAS_DEPTH →
      WalksMean self home (depth + 1) ∧ ResolvesMean self home (depth + 1)) :
    WalksMean self home depth := by
  intro cur rest
  induction rest generalizing cur with
  | nil =>
    rw [reads_on, walk_nil]
    exact fun _ => rfl
  | cons seg rest ih =>
    cases hinfo : self.modules[cur]? with
    | none =>
      rw [reads_on, hinfo, walk_of_unknown hinfo]
      exact fun _ => rfl
    | some info =>
      rw [reads_on_cons hinfo, walk_leads hinfo]
      cases info.leads cur seg with
      | some next => exact @ih next
      | none =>
        dsimp only
        by_cases hdepth : depth < ALIAS_DEPTH
        · obtain ⟨hwalks, hresolves⟩ := hdeeper hdepth
          have halias : info.alias_of seg depth (info.root = home) =
              info.aliases[seg]?.filter fun _ => info.root = home := by
            simp [ModuleInfo.alias_of, hdepth]
          rw [halias, following_of_lt self home hdepth]
          cases info.aliases[seg]?.filter fun _ => info.root = home with
          | none => exact fun _ => rfl
          | some path =>
            have hpath := @hresolves cur path false
            dsimp only at hpath ⊢
            split
            · exact fun hshallow => absurd rfl hshallow
            · rename_i hnothing
              rw [hnothing] at hpath
              rw [← hpath (by decide)]
              exact fun _ => rfl
            · rename_i target left hplace
              rw [hplace] at hpath
              rw [← hpath (by simp)]
              intro hshallow
              obtain ⟨stop, hstop⟩ := continue_from_eq_some self target rest home (depth + 1)
              have htarget : (Meaning.place target left).target = some target := rfl
              rw [hwalks.continue_from hshallow, htarget]
              dsimp only
              rw [hstop, Option.getD_some]
        · rw [alias_of_of_not_lt info seg _ hdepth, following_of_not_lt self home hdepth]
          cases info.aliases[seg]?.filter fun _ => info.root = home with
          | none => exact fun _ => rfl
          | some path => exact fun hshallow => absurd rfl hshallow

/-- Paths resolve to where they lead if walks go there. -/
theorem resolvesMean_step (hwalks : WalksMean self home depth)
    (hdeeper : depth < ALIAS_DEPTH → ResolvesMean self home (depth + 1)) :
    ResolvesMean self home depth := by
  intro module segs leading_colon
  cases hinfo : self.modules[module]? with
  | none =>
    unfold reads
    rw [resolve_of_unknown hinfo, hinfo]
    exact fun _ => rfl
  | some info =>
    cases segs with
    | nil =>
      unfold reads Scanner.resolve
      rw [hinfo]
      exact fun _ => rfl
    | cons first rest =>
      cases leading_colon with
      | true =>
        rw [resolve_rooted hinfo, reads_rooted hinfo]
        exact hwalks.enter_crate
      | false =>
        rw [resolve_leads hinfo, reads_cons hinfo]
        split
        · exact @hwalks _ _
        cases info.leads module first with
        | some next => exact @hwalks _ _
        | none =>
          have hcrate : ∀ meaning, (if self.is_crate info.root first then
                self.reads_crate (self.reads_on home (self.following home (ALIAS_DEPTH - depth))) first rest
              else .nothing) = meaning → meaning ≠ .deep → meaning.target =
                if self.is_crate info.root first then self.enter_crate first rest home depth else none := by
            rintro meaning rfl
            split
            · exact hwalks.enter_crate
            · exact fun _ => rfl
          dsimp only
          by_cases hdepth : depth < ALIAS_DEPTH
          · rw [alias_of_of_lt info first hdepth]
            cases info.aliases[first]? with
            | none => exact hcrate _ rfl
            | some path =>
              have hpath := @hdeeper hdepth module path false
              generalize hon : self.reads_on home (self.following home (ALIAS_DEPTH - depth)) = on
              rw [following_of_lt self home hdepth]
              dsimp only at hpath ⊢
              split
              · exact fun hshallow => absurd rfl hshallow
              · rename_i hnothing
                rw [hnothing] at hpath
                rw [← hpath (by decide)]
                exact fun _ => rfl
              · rename_i target left hplace
                rw [hplace] at hpath
                rw [← hpath (by simp), ← hon]
                exact hwalks.continue_from
          · rw [alias_of_of_not_lt info first _ hdepth]
            cases info.aliases[first]? with
            | none => exact hcrate _ rfl
            | some path =>
              rw [following_of_not_lt self home hdepth]
              exact fun hshallow => absurd rfl hshallow

/-- What walks and resolves go to is what their paths mean, however many aliases
they followed first. -/
theorem resolvesMean (self : Scanner) (home : String) (depth : Nat) :
    WalksMean self home depth ∧ ResolvesMean self home depth := by
  revert depth
  refine depth_induction fun depth hdeeper => ?_
  have hwalks := walksMean_step hdeeper
  exact ⟨hwalks, resolvesMean_step hwalks fun hdepth => (hdeeper hdepth).2⟩

end

end Scanner

end archlint.scan
