import AngzarrRouter.Archlint.Scan.Splitting

open text archlint.model archlint.syntax

namespace archlint.scan

/-- A name that a path can hold for a module's, or for an import. -/
structure Nameable (name : String) : Prop where
  segment : Segment name
  not_super : name ≠ "super"
  not_self : name ≠ "self"

theorem Meaning.target_eq_some_iff {meaning : Meaning} {target : String} :
    meaning.target = some target ↔ ∃ left, meaning = .place target left := by
  cases meaning <;> simp [Meaning.target]

namespace Scanner

/-- What a path means, written in a module. -/
def means (self : Scanner) (module : String) (segs : List String) (leading_colon : Bool) : Meaning :=
  let home := ((self.modules[module]?).map ModuleInfo.root).getD ""
  self.reads home (self.following home ALIAS_DEPTH) module segs leading_colon

/-- What a path resolves to, written in a module. -/
def resolves (self : Scanner) (module : String) (segs : List String) (leading_colon : Bool) :
    Option String :=
  self.resolve module segs leading_colon (((self.modules[module]?).map ModuleInfo.root).getD "") 0

/-- Reads on from where an imported path leads, whatever it left over. -/
def followed (self : Scanner) (on : String → List String → Meaning) (rest : List String) :
    Meaning → Meaning
  | .place target _ => self.continues on target rest
  | meaning => meaning

/-- No path leads from the module to another: no child of its can be named, what
it imports, where `home` may follow that, leads back to it, and it is its
crate's root if the path may hold `super`. -/
structure Barren (scanner : Scanner) (supers : Bool) (home module : String) (info : ModuleInfo) :
    Prop where
  root : supers = true → info.root = module
  children : ∀ name ∈ info.children, ¬ Nameable name
  imports : info.root = home → ∀ (name : String) (path : List String), Nameable name →
    info.aliases[name]? = some path → ∀ target left,
      scanner.reads home (scanner.following home (ALIAS_DEPTH - 1)) module path false =
        .place target left → target = module

/-- A `use` item of a module imports a path, with a leading `::` or without,
under a name that no child of the module's has; nor is it one of the keywords,
which name no import. -/
structure Imports (scanner : Scanner) (module name : String) (path : List String)
    (leading_colon : Bool) : Prop where
  imported : ((scanner.modules[module]?).bind fun info => info.aliases[name]?) = some path
  not_child : ((scanner.modules[module]?).any fun info => info.children.contains name) = false
  not_keyword : name ≠ "crate" ∧ name ≠ "self" ∧ name ≠ "super"
  path_ne_nil : path ≠ []
  written : ∃ r ∈ scanner.refs, r.module = module ∧ r.segs = path ∧ r.leading_colon = leading_colon

/-- A name that is no keyword, no child's of the module, and no import's. -/
def Unclaimed (self : Scanner) (module name : String) : Prop :=
  name ≠ "crate" ∧ ∃ info, self.modules[module]? = some info ∧ info.leads module name = none ∧
    info.aliases[name]? = none

/-- A name that is a crate's in a module, and nothing else's there. -/
def NamesCrate (self : Scanner) (module name : String) : Prop :=
  self.Unclaimed module name ∧ ∃ info, self.modules[module]? = some info ∧
    self.is_crate info.root name = true

/-- A path that a module may import and be understood: behind a leading `::` is a
name that is only a crate's, and where the path ends at an item, nothing else
leads on from the module that the item is in. -/
structure Plain (scanner : Scanner) (supers : Bool) (module : String) (path : List String)
    (leading_colon : Bool) : Prop where
  rooted : leading_colon = true → ∀ {first more}, path = first :: more →
    scanner.NamesCrate module first
  ended : ∀ {target seg left}, scanner.means module path leading_colon = .place target (seg :: left) →
    ∃ info, scanner.modules[target]? = some info ∧
      scanner.Barren supers (((scanner.modules[module]?).map ModuleInfo.root).getD "") target info

/-- The segments that may follow a name. Those of a path in Rust hold no
`super` there. -/
def Follows (supers : Bool) (rest : List String) : Prop :=
  Segments rest ∧ ("super" ∈ rest → supers = true)

/-- An imported name stands for the path it imports: what follows it resolves as
after that path, unless it follows too many aliases. -/
def StandsFor (self : Scanner) (supers : Bool) (module name : String) (path : List String)
    (leading_colon : Bool) : Prop :=
  ∀ rest, Follows supers rest → self.means module (name :: rest) false ≠ .deep →
    self.means module (path ++ rest) leading_colon ≠ .deep →
      self.resolves module (name :: rest) false = self.resolves module (path ++ rest) leading_colon

theorem Follows.nil (supers : Bool) : Follows supers [] :=
  ⟨fun _ hseg => absurd hseg List.not_mem_nil, fun hsuper => absurd hsuper List.not_mem_nil⟩

theorem Follows.singleton {supers : Bool} {seg : String} (hseg : Segment seg)
    (hsuper : seg = "super" → supers = true) : Follows supers [seg] :=
  ⟨List.forall_mem_singleton.mpr hseg, fun hmem => hsuper (List.mem_singleton.mp hmem).symm⟩

theorem follows_cons_iff {supers : Bool} {seg : String} {rest : List String} :
    Follows supers (seg :: rest) ↔
      (Segment seg ∧ (seg = "super" → supers = true)) ∧ Follows supers rest := by
  constructor
  · rintro ⟨hsegs, hsuper⟩
    obtain ⟨hseg, hothers⟩ := List.forall_mem_cons.mp hsegs
    exact ⟨⟨hseg, fun heq => hsuper (heq ▸ List.mem_cons_self)⟩,
      hothers, fun hmem => hsuper (List.mem_cons_of_mem _ hmem)⟩
  · rintro ⟨⟨hseg, hsuper⟩, hothers, hmore⟩
    refine ⟨List.forall_mem_cons.mpr ⟨hseg, hothers⟩, fun hmem => ?_⟩
    obtain heq | hmem := List.mem_cons.mp hmem
    · exact hsuper heq.symm
    · exact hmore hmem

section

variable {self : Scanner} {supers : Bool} {home module name : String} {path rest : List String}
  {info : ModuleInfo}

/-- A path resolves to where it leads, unless it is too deep. -/
theorem resolves_eq_target {segs : List String} {leading_colon : Bool}
    (hshallow : self.means module segs leading_colon ≠ .deep) :
    self.resolves module segs leading_colon = (self.means module segs leading_colon).target :=
  ((resolvesMean self _ 0).2 hshallow).symm

theorem resolves_of_means {segs : List String} {leading_colon : Bool} {target : String}
    {left : List String} (hmeans : self.means module segs leading_colon = .place target left) :
    self.resolves module segs leading_colon = some target := by
  rw [resolves_eq_target (by simp [hmeans]), hmeans, Meaning.target]

theorem child_path_ne (parent name : String) : child_path parent name ≠ parent := by
  intro heq
  have hlength := congrArg (·.toList.length) heq
  simp [toList_child_path] at hlength

/-- From such a module, no segment leads on. -/
theorem Barren.leads_eq (hbarren : Barren self supers home module info) {seg next : String}
    (hseg : Segment seg) (hsuper : seg = "super" → supers = true)
    (hleads : info.leads module seg = some next) : next = module := by
  unfold ModuleInfo.leads at hleads
  split at hleads
  · rename_i hseg
    rw [hbarren.root (hsuper hseg), parent_of, if_pos rfl] at hleads
    exact (Option.some.inj hleads).symm
  rename_i hsuper
  split at hleads
  · exact (Option.some.inj hleads).symm
  rename_i hself
  split at hleads
  · rename_i hchild
    exact absurd ⟨hseg, hsuper, hself⟩
      (hbarren.children seg (Std.ExtTreeSet.contains_iff_mem.mp hchild))
  · cases hleads

/-- The keywords always lead on. -/
theorem not_keyword_of_leads {seg : String} (hleads : info.leads module seg = none) :
    seg ≠ "super" ∧ seg ≠ "self" := by
  refine ⟨?_, ?_⟩
  · rintro rfl
    simp [ModuleInfo.leads] at hleads
  · rintro rfl
    simp [ModuleInfo.leads] at hleads

/-- So a path read on from there stays, or is too deep. -/
theorem Barren.stays (hbarren : Barren self supers home module info)
    (hinfo : self.modules[module]? = some info) {aliases : Nat} (haliases : aliases ≤ ALIAS_DEPTH)
    (hrest : Follows supers rest) :
    self.reads_on home (self.following home aliases) module rest = .deep ∨
      ∃ left, self.reads_on home (self.following home aliases) module rest = .place module left := by
  induction aliases using Nat.strong_induction_on generalizing rest with
  | _ aliases ihaliases =>
    induction rest with
    | nil => exact .inr ⟨[], rfl⟩
    | cons seg rest ih =>
      obtain ⟨⟨hseg, hsupers⟩, hothers⟩ := follows_cons_iff.mp hrest
      rw [reads_on_cons hinfo]
      cases hleads : info.leads module seg with
      | some next =>
        rw [hbarren.leads_eq hseg hsupers hleads]
        exact ih hothers
      | none =>
        cases halias : info.aliases[seg]?.filter fun _ => info.root = home with
        | none => exact .inr ⟨_, rfl⟩
        | some path =>
          obtain ⟨halias, hhome⟩ := Option.filter_eq_some_iff.mp halias
          cases aliases with
          | zero => exact .inl rfl
          | succ fewer =>
            dsimp only [following]
            cases hpath : self.reads home (self.following home fewer) module path false with
            | deep => exact .inl rfl
            | nothing => exact .inr ⟨_, rfl⟩
            | place target left =>
              have hshallow : self.reads home (self.following home fewer) module path false ≠ .deep := by
                simp [hpath]
              have hmore := (extends_following self home (Nat.le_sub_one_of_lt haliases)).reads
                module path false hshallow
              obtain ⟨hsuper, hself⟩ := not_keyword_of_leads hleads
              obtain rfl := hbarren.imports (by simpa using hhome) seg path ⟨hseg, hsuper, hself⟩
                halias target left (hmore.trans hpath)
              dsimp only
              rw [continues_of_mem (mem_of_getElem? hinfo)]
              exact ihaliases fewer (Nat.lt_succ_self fewer) (Nat.le_of_succ_le haliases) hothers

/-- Nothing leads on from where a path ends. -/
theorem continues_nil (self : Scanner) (home : String) (fewer : Option Following) (target : String) :
    self.continues (self.reads_on home fewer) target [] = .place target [] := by
  unfold continues
  split
  · rw [reads_on]
  · rw [join_nil]

theorem following_alias_depth (self : Scanner) (home : String) :
    self.following home ALIAS_DEPTH = some
      { path := fun module segs =>
          self.reads home (self.following home (ALIAS_DEPTH - 1)) module segs false
        on := self.reads_on home (self.following home (ALIAS_DEPTH - 1)) } := rfl

/-- A module from which nothing leads on is barren. -/
theorem barren_of_stays (hforest : Forest self) {target : String}
    (hstays : ∀ rest, Follows supers rest →
      self.continues (self.reads_on home (self.following home ALIAS_DEPTH)) target rest ≠ .deep →
      (self.continues (self.reads_on home (self.following home ALIAS_DEPTH)) target rest).target =
        some target) :
    ∃ info, self.modules[target]? = some info ∧ Barren self supers home target info := by
  have hletters : ∀ seg ∈ ["self", "super"], Segment seg := segments_of_letters (by decide)
  have hthere : target ∈ self.modules := by
    by_contra hgone
    have hself := hstays ["self"] (.singleton (hletters _ (by simp)) fun heq => absurd heq (by decide))
    rw [continues_of_not_mem hgone, join_cons, join_nil] at hself
    exact child_path_ne target "self" (Option.some.inj (hself (by simp)))
  obtain ⟨info, hinfo⟩ := exists_of_mem hthere
  have hon : ∀ {seg}, Segment seg → (seg = "super" → supers = true) →
      self.reads_on home (self.following home ALIAS_DEPTH) target [seg] ≠ .deep →
      (self.reads_on home (self.following home ALIAS_DEPTH) target [seg]).target = some target := by
    intro seg hseg hsuper hshallow
    have hstays := hstays [seg] (.singleton hseg hsuper)
    rw [continues_of_mem hthere] at hstays
    exact hstays hshallow
  have hchildren : ∀ name ∈ info.children, ¬ Nameable name := by
    intro name hchild hname
    have hleads : info.leads target name = some (child_path target name) := by
      rw [ModuleInfo.leads, if_neg hname.not_super, if_neg hname.not_self,
        if_pos (Std.ExtTreeSet.contains_iff_mem.mpr hchild)]
    have hstop := hon hname.segment fun hsuper => absurd hsuper hname.not_super
    rw [reads_on_cons hinfo, hleads] at hstop
    exact child_path_ne target name (Option.some.inj (hstop (by simp [reads_on])))
  refine ⟨info, hinfo, fun hsupers => ?_, hchildren,
    fun hhome name path hname halias stop left hpath => ?_⟩
  · have hsuper := hon (hletters "super" (by simp)) fun _ => hsupers
    rw [reads_on_cons hinfo] at hsuper
    have hparent : parent_of target info.root = target := by
      simpa [ModuleInfo.leads, reads_on, Meaning.target] using hsuper
    by_contra hother
    have hbelow := (hforest.entry hinfo).below
    unfold parent_of at hparent
    rw [if_neg (Ne.symm hother)] at hparent
    generalize info.root = root at hbelow hother
    cases hbelow with
    | root => exact hother rfl
    | @child parent name _ hname =>
      rw [rsplit_once_child_path parent hname.crate_name] at hparent
      exact child_path_ne parent name hparent.symm
  · have hleads : info.leads target name = none := by
      rw [ModuleInfo.leads, if_neg hname.not_super, if_neg hname.not_self, if_neg]
      exact fun hchild => hchildren name (Std.ExtTreeSet.contains_iff_mem.mp hchild) hname
    have hfiltered : info.aliases[name]?.filter (fun _ => info.root = home) = some path := by
      simp [halias, hhome]
    have hmeans : self.reads_on home (self.following home ALIAS_DEPTH) target [name] = .place stop [] := by
      rw [reads_on_cons hinfo, hleads, hfiltered, following_alias_depth]
      dsimp only
      rw [hpath]
      exact continues_nil ..
    have hstop := hon hname.segment fun hsuper => absurd hsuper hname.not_super
    rw [hmeans] at hstop
    exact Option.some.inj (hstop (by simp))

theorem root_of_module (hinfo : self.modules[module]? = some info) :
    ((self.modules[module]?).map ModuleInfo.root).getD "" = info.root := by
  rw [hinfo]
  rfl

theorem Imports.alias_eq {leading_colon : Bool} (himports : self.Imports module name path leading_colon)
    (hinfo : self.modules[module]? = some info) : info.aliases[name]? = some path := by
  have himported := himports.imported
  rwa [hinfo, Option.bind_some] at himported

/-- An imported name, with a path behind it, means what that means after the
place where the imported path ends, items and all. -/
theorem Imports.means_eq {leading_colon : Bool} (himports : self.Imports module name path leading_colon)
    (hinfo : self.modules[module]? = some info) (hname : self.means module [name] false ≠ .deep)
    (rest : List String) : self.means module (name :: rest) false =
      self.followed (self.reads_on info.root (self.following info.root ALIAS_DEPTH)) rest
        (self.means module path false) := by
  obtain ⟨hcrate, hself, hsuper⟩ := himports.not_keyword
  have halias := himports.alias_eq hinfo
  have hleads : info.leads module name = none := by
    have hchild := himports.not_child
    rw [hinfo, Option.any_some] at hchild
    rw [ModuleInfo.leads, if_neg hsuper, if_neg hself, if_neg (by simp [hchild])]
  have hmeans : ∀ rest, self.means module (name :: rest) false =
      self.followed (self.reads_on info.root (self.following info.root ALIAS_DEPTH)) rest
        (self.reads info.root (self.following info.root (ALIAS_DEPTH - 1)) module path false) := by
    intro rest
    rw [means, root_of_module hinfo, reads_cons hinfo, if_neg hcrate, hleads, halias]
    generalize self.reads_on info.root (self.following info.root ALIAS_DEPTH) = on
    rw [following_alias_depth]
    dsimp only
    cases self.reads info.root (self.following info.root (ALIAS_DEPTH - 1)) module path false <;> rfl
  have hsettles : Meaning.Settles
      (self.reads info.root (self.following info.root (ALIAS_DEPTH - 1)) module path false)
      (self.reads info.root (self.following info.root ALIAS_DEPTH) module path false) :=
    (extends_following self info.root (Nat.sub_le ALIAS_DEPTH 1)).reads module path false
  have hshallow : self.reads info.root (self.following info.root (ALIAS_DEPTH - 1)) module path false ≠
      .deep := by
    intro hdeep
    rw [hmeans, hdeep] at hname
    exact hname rfl
  rw [hmeans rest, ← hsettles hshallow, means, root_of_module hinfo]

/-- What an imported path means with a path behind it. -/
theorem Imports.splits (hforest : Forest self) {leading_colon : Bool}
    (himports : self.Imports module name path leading_colon)
    (hinfo : self.modules[module]? = some info) (rest : List String) :
    Splits self (self.reads_on info.root (self.following info.root ALIAS_DEPTH)) rest
      (self.means module (path ++ rest) leading_colon) (self.means module path leading_colon) := by
  have hsegs := (hforest.entry hinfo).aliases name path (himports.alias_eq hinfo)
  unfold means
  rw [root_of_module hinfo]
  cases path with
  | nil => exact absurd rfl himports.path_ne_nil
  | cons first front =>
    obtain ⟨hfirst, hfront⟩ := List.forall_mem_cons.mp hsegs
    exact reads_splits hforest (Nat.le_refl _) ⟨info, hinfo, rfl⟩ hfirst hfront rest leading_colon

/-- A leading `::` changes nothing before a crate's name that is nothing else's. -/
theorem NamesCrate.means_eq {first : String} (hfirst : self.NamesCrate module first)
    (rest : List String) :
    self.means module (first :: rest) false = self.means module (first :: rest) true := by
  obtain ⟨⟨hcrate, info, hinfo, hleads, halias⟩, found, hfound, hknown⟩ := hfirst
  obtain rfl := Option.some.inj (hinfo.symm.trans hfound)
  rw [means, means, reads_cons hinfo, reads_rooted hinfo, if_neg hcrate, hleads, halias]
  dsimp only
  rw [if_pos hknown]

/-- Without its `::`, a path under a name that is nothing's in a module leads
nowhere. -/
theorem Unclaimed.names_crate {first : String} (hfirst : self.Unclaimed module first)
    (hpath : self.means module (first :: rest) true ≠ .deep)
    (hsame : (self.means module (first :: rest) false).target =
      (self.means module (first :: rest) true).target) : self.NamesCrate module first := by
  obtain ⟨hcrate, info, hinfo, hleads, halias⟩ := hfirst
  refine ⟨⟨hcrate, info, hinfo, hleads, halias⟩, info, hinfo, ?_⟩
  by_contra hunknown
  have hnothing : self.means module (first :: rest) false = .nothing := by
    rw [means, root_of_module hinfo, reads_cons hinfo, if_neg hcrate, hleads, halias]
    dsimp only
    rw [if_neg hunknown]
  obtain ⟨stop, hstop⟩ := enter_crate_eq_some self first rest info.root 0
  have hresolves := resolves_eq_target hpath
  rw [← hsame, hnothing, resolves, root_of_module hinfo, resolve_rooted hinfo, hstop] at hresolves
  cases hresolves

/-- The place that a plain path leads to, it leads to without its `::`. -/
theorem Plain.target_eq {leading_colon : Bool} (hplain : self.Plain supers module path leading_colon) :
    (self.means module path false).target = (self.means module path leading_colon).target := by
  cases leading_colon with
  | false => rfl
  | true =>
    cases path with
    | nil => unfold means reads; cases self.modules[module]? <;> rfl
    | cons first more => rw [(hplain.rooted rfl rfl).means_eq more]

/-- An imported name leads where the imported path does without its `::`. -/
theorem Imports.target_eq {leading_colon : Bool}
    (himports : self.Imports module name path leading_colon)
    (hinfo : self.modules[module]? = some info) (hname : self.means module [name] false ≠ .deep) :
    (self.means module [name] false).target = (self.means module path false).target := by
  rw [himports.means_eq hinfo hname]
  cases self.means module path false with
  | deep => rfl
  | nothing => rfl
  | place target left => rw [followed, continues_nil]; rfl

/-- A name stands for a plain path. -/
theorem Imports.stands_for (hscanner : Registered self) {leading_colon : Bool}
    (himports : self.Imports module name path leading_colon)
    (hname : self.means module [name] false ≠ .deep)
    (hpath : self.means module path leading_colon ≠ .deep)
    (hplain : self.Plain supers module path leading_colon) :
    self.StandsFor supers module name path leading_colon := by
  intro rest hrest hafter hwhole
  obtain ⟨info, hinfo, _⟩ := Option.bind_eq_some_iff.mp himports.imported
  have htargets := hplain.target_eq
  have hsplit := himports.splits hscanner.forest hinfo rest
  rw [resolves_eq_target hafter, resolves_eq_target hwhole]
  rw [himports.means_eq hinfo hname] at hafter ⊢
  cases hread : self.means module path leading_colon with
  | deep => exact absurd hread hpath
  | nothing =>
    rw [hread] at hsplit htargets
    rw [hsplit]
    cases hfollowed : self.means module path false with
    | deep => rfl
    | nothing => rfl
    | place target left =>
      rw [hfollowed] at htargets
      cases htargets
  | place target left =>
    rw [hread] at hsplit htargets
    obtain ⟨_, hfollowed⟩ := Meaning.target_eq_some_iff.mp htargets
    rw [hfollowed] at hafter ⊢
    cases left with
    | nil => rw [← hsplit hwhole]; rfl
    | cons seg left =>
      obtain ⟨found, hfound, hbarren⟩ := hplain.ended hread
      rw [root_of_module hinfo] at hbarren
      have hstays := hbarren.stays hfound (Nat.le_refl ALIAS_DEPTH) hrest
      rw [followed, continues_of_mem (mem_of_getElem? hfound)] at hafter ⊢
      obtain hdeep | ⟨left, hplace⟩ := hstays
      · exact absurd hdeep hafter
      · rw [hplace, hsplit]
        rfl

/-- A path that a name stands for is plain, if the name behind its `::` is
nothing of the module's own. -/
theorem StandsFor.plain (hscanner : Registered self) {leading_colon : Bool}
    (himports : self.Imports module name path leading_colon)
    (hname : self.means module [name] false ≠ .deep)
    (hpath : self.means module path leading_colon ≠ .deep)
    (hfirst : leading_colon = true → ∀ {first more}, path = first :: more →
      self.Unclaimed module first)
    (hstands : self.StandsFor supers module name path leading_colon) :
    self.Plain supers module path leading_colon := by
  have hforest := hscanner.forest
  obtain ⟨info, hinfo, _⟩ := Option.bind_eq_some_iff.mp himports.imported
  have htargets : (self.means module path false).target =
      (self.means module path leading_colon).target := by
    have halone := hstands [] (.nil supers) hname (by simpa using hpath)
    rw [resolves_eq_target hname, List.append_nil, resolves_eq_target hpath,
      himports.target_eq hinfo hname] at halone
    exact halone
  constructor
  · rintro rfl first more rfl
    exact (hfirst rfl rfl).names_crate hpath htargets
  · intro target seg left hended
    rw [root_of_module hinfo]
    refine barren_of_stays hforest fun rest hrest hshallow => ?_
    obtain ⟨_, hfollowed⟩ := Meaning.target_eq_some_iff.mp (htargets.trans (by rw [hended, Meaning.target]))
    have hwhole := himports.splits hforest hinfo rest
    have hafter := himports.means_eq hinfo hname rest
    rw [hended] at hwhole
    rw [hfollowed] at hafter
    have hsame := hstands rest hrest (by rw [hafter]; exact hshallow) (by rw [hwhole]; simp)
    rw [resolves_eq_target (by rw [hafter]; exact hshallow),
      resolves_eq_target (by rw [hwhole]; simp), hafter, hwhole] at hsame
    exact hsame

/-- An imported name stands for a plain path, and for no other path unless the
module has a child or an import under the name behind its `::`. -/
theorem stands_for_iff (hscanner : Registered self) {leading_colon : Bool}
    (himports : self.Imports module name path leading_colon)
    (hname : self.means module [name] false ≠ .deep)
    (hpath : self.means module path leading_colon ≠ .deep) (supers : Bool) :
    (self.Plain supers module path leading_colon →
      self.StandsFor supers module name path leading_colon) ∧
    ((leading_colon = true → ∀ {first more}, path = first :: more → self.Unclaimed module first) →
      (self.StandsFor supers module name path leading_colon ↔
        self.Plain supers module path leading_colon)) := by
  have hstands : self.Plain supers module path leading_colon →
      self.StandsFor supers module name path leading_colon :=
    himports.stands_for hscanner hname hpath
  exact ⟨hstands, fun hfirst => ⟨StandsFor.plain hscanner himports hname hpath hfirst, hstands⟩⟩

/-- A path is plain that leads to a module, or out of the workspace, to its very
end, if the name behind its leading `::` is only a crate's. -/
theorem Plain.of_place {leading_colon : Bool} {first target : String}
    (hfirst : leading_colon = true → self.NamesCrate module first)
    (hplace : self.means module (first :: rest) leading_colon = .place target []) :
    self.Plain supers module (first :: rest) leading_colon where
  rooted hrooted := by
    rintro _ _ ⟨⟩
    exact hfirst hrooted
  ended hended := by
    rw [hplace] at hended
    cases hended

/-- A leaf of a `use` item in a module imports its path there. -/
theorem Imports.of_record_leaf {ctx : Ctx} (hinfo : self.modules[ctx.module]? = some info)
    (hchild : info.children.contains name = false)
    (hname : name ≠ "crate" ∧ name ≠ "self" ∧ name ≠ "super") (hpath : path ≠ []) (u : ItemUse)
    (scope : Scope) : (record_leaf ctx u scope true self (path, some name)).Imports ctx.module name
      path u.leading_colon := by
  have hmodules : (record_leaf ctx u scope true self (path, some name)).modules =
      self.modules.insert ctx.module { info with aliases := info.aliases.insert name path } := by
    simp [record_leaf, add_alias, hinfo, push_refs]
  refine ⟨?_, ?_, hname, hpath, _, List.mem_append_right _ (List.mem_singleton_self _), rfl, rfl, rfl⟩
  · simp [hmodules]
  · simp [hmodules, hchild]

/-- A reference takes no import away. -/
theorem Imports.push_refs {leading_colon : Bool} (himports : self.Imports module name path leading_colon)
    (refs : List RawRef) : (self.push_refs refs).Imports module name path leading_colon := by
  obtain ⟨r, hr, hwritten⟩ := himports.written
  exact ⟨himports.imported, himports.not_child, himports.not_keyword, himports.path_ne_nil, r,
    List.mem_append_left _ hr, hwritten⟩

/-- Nor does an alias under another name, or in another module. -/
theorem Imports.add_alias {leading_colon : Bool} (himports : self.Imports module name path leading_colon)
    {importing : String} {imported : Option String} (hother : importing ≠ module ∨ imported ≠ some name)
    (segs : List String) :
    (self.add_alias importing imported segs).Imports module name path leading_colon := by
  unfold Scanner.add_alias
  split
  · rename_i imported info hinfo
    refine ⟨?_, ?_, himports.not_keyword, himports.path_ne_nil, himports.written⟩
    · have himported := himports.imported
      rw [Std.ExtTreeMap.getElem?_insert]
      split
      · rename_i hsame
        obtain rfl := Std.LawfulEqOrd.eq_of_compare hsame
        have hname : imported ≠ name := by simpa using hother
        rw [hinfo] at himported
        rw [Option.bind_some, Std.ExtTreeMap.getElem?_insert, if_neg (by simpa using hname)]
        exact himported
      · exact himported
    · have hchild := himports.not_child
      rw [Std.ExtTreeMap.getElem?_insert]
      split
      · rename_i hsame
        obtain rfl := Std.LawfulEqOrd.eq_of_compare hsame
        rw [hinfo] at hchild
        exact hchild
      · exact hchild
  · exact himports

/-- Another leaf takes no import away that has another name or is another
module's. -/
theorem Imports.record_other_leaf {leading_colon : Bool}
    (himports : self.Imports module name path leading_colon) {ctx : Ctx}
    {leaf : List String × Option String} (hother : ctx.module ≠ module ∨ leaf.2 ≠ some name)
    (u : ItemUse) (scope : Scope) (module_level : Bool) :
    (record_leaf ctx u scope module_level self leaf).Imports module name path leading_colon := by
  refine Imports.push_refs ?_ _
  split
  · exact himports.add_alias hother _
  · exact himports

/-- The leaves of `use` items leave a module its children. -/
theorem children_record_leaves (u : ItemUse) (scope : Scope) (ctx : Ctx)
    (leaves : List (List String × Option String)) (hinfo : self.modules[module]? = some info) :
    ∃ found, (leaves.foldl (record_leaf ctx u scope true) self).modules[module]? = some found ∧
      found.children = info.children := by
  induction leaves generalizing self info with
  | nil => exact ⟨info, hinfo, rfl⟩
  | cons leaf leaves ih =>
    have hleaf : ∃ found, (record_leaf ctx u scope true self leaf).modules[module]? = some found ∧
        found.children = info.children := by
      obtain ⟨segs, imported⟩ := leaf
      simp only [record_leaf, if_true, Scanner.push_refs]
      unfold Scanner.add_alias
      split
      · rename_i imported importing himporting
        by_cases hsame : ctx.module = module
        · subst hsame
          obtain rfl := Option.some.inj (himporting.symm.trans hinfo)
          exact ⟨_, Std.ExtTreeMap.getElem?_insert_self, rfl⟩
        · rw [Std.ExtTreeMap.getElem?_insert, if_neg (by simpa using hsame)]
          exact ⟨info, hinfo, rfl⟩
      · exact ⟨info, hinfo, rfl⟩
    obtain ⟨found, hfound, hchildren⟩ := hleaf
    obtain ⟨last, hlast, hsame⟩ := ih hfound
    exact ⟨last, hlast, hsame.trans hchildren⟩

/-- A `use` item at module level imports each of its leaves that none after it
has the name of. -/
theorem Imports.of_record_use {ctx : Ctx} (hinfo : self.modules[ctx.module]? = some info)
    (hchild : info.children.contains name = false)
    (hname : name ≠ "crate" ∧ name ≠ "self" ∧ name ≠ "super") (hpath : path ≠ []) {u : ItemUse}
    {before after : List (List String × Option String)}
    (hleaves : flatten_use u.tree [] = before ++ (path, some name) :: after)
    (honce : ∀ leaf ∈ after, leaf.2 ≠ some name) (scope : Scope) :
    (self.record_use ctx u scope true).Imports ctx.module name path u.leading_colon := by
  rw [Scanner.record_use, hleaves, List.foldl_append, List.foldl_cons]
  obtain ⟨found, hfound, hchildren⟩ := children_record_leaves u scope ctx before hinfo
  have himports := Imports.of_record_leaf hfound (hchildren ▸ hchild) hname hpath u scope
  clear hleaves
  generalize record_leaf ctx u scope true _ (path, some name) = scanner at himports
  induction after generalizing scanner with
  | nil => exact himports
  | cons leaf after ih =>
    obtain ⟨hleaf, hothers⟩ := List.forall_mem_cons.mp honce
    exact ih hothers _ (himports.record_other_leaf (.inr hleaf) u scope true)

end

end Scanner

namespace shelf

/-- What `stock` imports by the path of a module stands for that path. -/
theorem stands_for_bulk : scanner.StandsFor true "stock" "bulk" ["self", "count", "bulk"] false := by
  have himports : scanner.Imports "stock" "bulk" ["self", "count", "bulk"] false :=
    ⟨by decide, by decide, by decide, by decide, by decide⟩
  have hends : scanner.means "stock" ["self", "count", "bulk"] false =
      .place "stock::count::bulk" [] := by decide
  have hplain : scanner.Plain true "stock" ["self", "count", "bulk"] false := .of_place nofun hends
  exact ((Scanner.stands_for_iff registered himports (by decide) (by decide) true).2 nofun).mpr hplain

/-- What it imports by the path of an item does not: behind the item's name, a
module beside the item is found. Nor does what `shelf` imports from another
crate, where a module of its own has the crate's name. -/
theorem names_stand_for_more :
    (Registered scanner ∧ scanner.Imports "stock" "Item" ["self", "count", "Item"] false ∧
      scanner.resolves "stock" ["Item", "bulk"] false = some "stock::count::bulk" ∧
      scanner.resolves "stock" ["self", "count", "Item", "bulk"] false = some "stock::count" ∧
      ¬ scanner.StandsFor false "stock" "Item" ["self", "count", "Item"] false) ∧
    (scanner.Imports "shelf" "tally" ["stock", "count"] true ∧
      scanner.resolves "shelf" ["tally"] false = some "shelf::stock" ∧
      scanner.resolves "shelf" ["stock", "count"] true = some "stock::count" ∧
      ¬ scanner.StandsFor false "shelf" "tally" ["stock", "count"] true) := by
  have hitem : scanner.means "stock" ["Item", "bulk"] false = .place "stock::count::bulk" [] := by
    decide
  have hpath : scanner.means "stock" ["self", "count", "Item", "bulk"] false =
      .place "stock::count" ["Item", "bulk"] := by
    decide
  have htally : scanner.means "shelf" ["tally"] false = .place "shelf::stock" [] := by decide
  have hcount : scanner.means "shelf" ["stock", "count"] true = .place "stock::count" [] := by decide
  have hresolves := fun {module segs leading_colon target left} =>
    @Scanner.resolves_of_means scanner module segs leading_colon target left
  have hbulk : Scanner.Follows false ["bulk"] := ⟨segments_of_letters (by decide), by decide⟩
  refine ⟨⟨registered, ⟨by decide, by decide, by decide, by decide, by decide⟩, hresolves hitem,
    hresolves hpath, fun hstands => ?_⟩, ⟨by decide, by decide, by decide, by decide, by decide⟩,
    hresolves htally, hresolves hcount, fun hstands => ?_⟩
  · have hsame := hstands ["bulk"] hbulk (by simp [hitem]) (by simp [hpath])
    rw [hresolves hitem] at hsame
    exact absurd (hsame.trans (hresolves hpath)) (by decide)
  · have hsame := hstands [] (.nil false) (by simp [htally]) (by simp [hcount])
    rw [hresolves htally] at hsame
    exact absurd (hsame.trans (hresolves hcount)) (by decide)

end shelf

end archlint.scan
