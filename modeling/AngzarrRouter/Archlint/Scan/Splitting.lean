import AngzarrRouter.Archlint.Scan.Reading

open text archlint.model

namespace archlint.scan

/-- What a path means with more aliases left to follow, unless it is too deep
with fewer. -/
def Meaning.Settles (fewer more : Meaning) : Prop := fewer ≠ .deep → more = fewer

theorem Meaning.Settles.refl (meaning : Meaning) : meaning.Settles meaning := fun _ => rfl

theorem Meaning.Settles.of_deep (more : Meaning) : Meaning.deep.Settles more :=
  fun hshallow => absurd rfl hshallow

namespace Scanner

/-- With more aliases left to follow, what is not too deep with fewer means the
same. -/
def Extends (fewer more : Option Following) : Prop :=
  ∀ ⦃less⦄, fewer = some less → ∃ other, more = some other ∧
    (∀ module segs, (less.path module segs).Settles (other.path module segs)) ∧
    ∀ cur rest, (less.on cur rest).Settles (other.on cur rest)

section

variable {self : Scanner} {home : String} {on others : String → List String → Meaning}
  {fewer more : Option Following}

theorem continues_settles (hon : ∀ cur rest, (on cur rest).Settles (others cur rest))
    (target : String) (rest : List String) :
    (self.continues on target rest).Settles (self.continues others target rest) := by
  unfold continues
  split
  · exact hon target rest
  · exact .refl _

theorem reads_crate_settles (hon : ∀ cur rest, (on cur rest).Settles (others cur rest))
    (name : String) (rest : List String) :
    (self.reads_crate on name rest).Settles (self.reads_crate others name rest) := by
  unfold reads_crate
  split
  · exact hon name rest
  · exact .refl _

/-- With more aliases left, a path read on from a module means the same. -/
theorem Extends.reads_on (hextends : Extends fewer more) (cur : String) (rest : List String) :
    (self.reads_on home fewer cur rest).Settles (self.reads_on home more cur rest) := by
  induction rest generalizing cur with
  | nil =>
    rw [Scanner.reads_on, Scanner.reads_on]
    exact .refl _
  | cons seg rest ih =>
    cases hinfo : self.modules[cur]? with
    | none =>
      rw [Scanner.reads_on, Scanner.reads_on, hinfo]
      exact .refl _
    | some info =>
      rw [reads_on_cons hinfo, reads_on_cons hinfo]
      cases info.leads cur seg with
      | some next => exact ih next
      | none =>
        cases info.aliases[seg]?.filter fun _ => info.root = home with
        | none => exact .refl _
        | some path =>
          cases hfewer : fewer with
          | none => exact .of_deep _
          | some less =>
            obtain ⟨other, rfl, hpath, hon⟩ := hextends hfewer
            have hpath := hpath cur path
            dsimp only
            cases hless : less.path cur path with
            | deep => exact .of_deep _
            | nothing =>
              rw [hpath (by simp [hless]), hless]
              exact .refl _
            | place target left =>
              rw [hpath (by simp [hless]), hless]
              exact continues_settles hon target rest

/-- So does a path that a module writes. -/
theorem Extends.reads (hextends : Extends fewer more) (module : String) (segs : List String)
    (leading_colon : Bool) : (self.reads home fewer module segs leading_colon).Settles
      (self.reads home more module segs leading_colon) := by
  have hon : ∀ cur rest, (self.reads_on home fewer cur rest).Settles
      (self.reads_on home more cur rest) := hextends.reads_on
  cases hinfo : self.modules[module]? with
  | none =>
    unfold Scanner.reads
    rw [hinfo]
    exact .refl _
  | some info =>
    cases segs with
    | nil =>
      unfold Scanner.reads
      rw [hinfo]
      exact .refl _
    | cons first rest =>
      cases leading_colon with
      | true =>
        rw [reads_rooted hinfo, reads_rooted hinfo]
        exact reads_crate_settles hon first rest
      | false =>
        rw [reads_cons hinfo, reads_cons hinfo]
        split
        · exact hon _ rest
        cases info.leads module first with
        | some next => exact hon next rest
        | none =>
          cases info.aliases[first]? with
          | none =>
            dsimp only
            split
            · exact reads_crate_settles hon first rest
            · exact .refl _
          | some path =>
            cases hfewer : fewer with
            | none => exact .of_deep _
            | some less =>
              obtain ⟨other, rfl, hpath, _⟩ := hextends hfewer
              have hpath := hpath module path
              rw [hfewer] at hon
              dsimp only
              cases hless : less.path module path with
              | deep => exact .of_deep _
              | nothing =>
                rw [hpath (by simp [hless]), hless]
                exact .refl _
              | place target left =>
                rw [hpath (by simp [hless]), hless]
                exact continues_settles hon target rest

/-- More aliases may be followed behind more of them. -/
theorem extends_following (self : Scanner) (home : String) {fewer more : Nat} (hle : fewer ≤ more) :
    Extends (self.following home fewer) (self.following home more) := by
  induction fewer generalizing more with
  | zero => exact fun _ hnone => nomatch hnone
  | succ fewer ih =>
    obtain ⟨more, rfl⟩ : ∃ n, more = n + 1 := ⟨more - 1, by omega⟩
    have hless := ih (Nat.le_of_succ_le_succ hle)
    rintro _ ⟨⟩
    exact ⟨_, rfl, fun module segs => hless.reads module segs false, hless.reads_on⟩

end

/-- A place that a path may lead to: a module, or a path out of the workspace. -/
def Placed (self : Scanner) (target : String) : Prop :=
  target ∈ self.modules ∨ ∃ name rest, Outside self name rest ∧ target = join name rest

/-- What the whole of a path means where `part` is what its front means: the
rest leads on from there, unless a segment of the front was left over. -/
def Splits (self : Scanner) (on : String → List String → Meaning) (rest : List String)
    (whole : Meaning) : Meaning → Prop
  | .deep => whole = .deep
  | .nothing => whole = .nothing
  | .place target [] => whole.Settles (self.continues on target rest)
  | .place target (seg :: left) => whole = .place target (seg :: left ++ rest)

section

variable {self : Scanner} {home : String} {front rest : List String}
  {on others : String → List String → Meaning}

/-- A path still splits where more aliases are left for the rest. -/
theorem Splits.mono (hon : ∀ cur rest, (on cur rest).Settles (others cur rest)) {whole part : Meaning}
    (hsplits : Splits self on rest whole part) : Splits self others rest whole part := by
  cases part with
  | deep => exact hsplits
  | nothing => exact hsplits
  | place target left =>
    cases left with
    | nil =>
      intro hshallow
      have hwhole := hsplits hshallow
      rw [← hwhole]
      exact continues_settles hon target rest (hwhole ▸ hshallow)
    | cons seg left => exact hsplits

/-- From a place, a path splits as it does from a module. -/
theorem Placed.splits (hforest : Forest self) (hfront : Segments front)
    (hsplits : ∀ {cur}, cur ∈ self.modules → Splits self on rest (on cur (front ++ rest)) (on cur front))
    {target : String} (hplaced : Placed self target) :
    Splits self on rest (self.continues on target (front ++ rest)) (self.continues on target front) := by
  obtain hthere | ⟨name, segs, houtside, rfl⟩ := hplaced
  · rw [continues_of_mem hthere, continues_of_mem hthere]
    exact hsplits hthere
  · have hjoined : Outside self name (segs ++ front) :=
      ⟨houtside.unscanned, houtside.first, List.forall_mem_append.mpr ⟨houtside.others, hfront⟩⟩
    have hgone := hforest.not_mem_of_outside houtside
    rw [continues_of_not_mem hgone, continues_of_not_mem hgone, join_append, join_append,
      ← List.append_assoc]
    intro _
    rw [continues_of_not_mem (hforest.not_mem_of_outside hjoined), join_append]

/-- A segment leads to a module of the same crate. -/
theorem leads_rooted (hforest : Forest self) {cur seg next : String} {info : ModuleInfo}
    (hinfo : self.modules[cur]? = some info) (hseg : Segment seg)
    (hleads : info.leads cur seg = some next) : Rooted self info.root next := by
  unfold ModuleInfo.leads at hleads
  split at hleads
  · exact Option.some.inj hleads ▸ hforest.parent hinfo
  split at hleads
  · exact Option.some.inj hleads ▸ ⟨info, hinfo, rfl⟩
  split at hleads
  · rename_i hchild
    exact Option.some.inj hleads ▸ hforest.child hinfo hseg (Std.ExtTreeSet.contains_iff_mem.mp hchild)
  · cases hleads

/-- A path written in the crate at `home` leads to a module or out of the
workspace. -/
theorem placed_of_reads (hforest : Forest self) {aliases : Nat} (haliases : aliases ≤ ALIAS_DEPTH)
    {module : String} {segs : List String} {leading_colon : Bool} {target : String}
    {left : List String} (hmodule : Rooted self home module) (hsegs : Segments segs)
    (hreads : self.reads home (self.following home aliases) module segs leading_colon =
      .place target left) : Placed self target := by
  have hmeans := @(resolvesMean self home (ALIAS_DEPTH - aliases)).2 module segs leading_colon
  rw [show ALIAS_DEPTH - (ALIAS_DEPTH - aliases) = aliases by omega, hreads] at hmeans
  have hlands := resolvesLand hforest hsegs _ hmodule .written (hmeans (by simp)).symm
  cases hlands with
  | reached hreached =>
    obtain ⟨info, hinfo⟩ := hreached.there
    exact .inl (mem_of_getElem? hinfo)
  | outside _ houtside => exact .inr ⟨_, _, houtside, rfl⟩

/-- What holds of how paths are read behind an alias, for those before one to
split. -/
structure Splittable (self : Scanner) (home : String) (rest : List String)
    (fewer : Option Following) (less : Following) : Prop where
  placed : ∀ {cur path target left}, Rooted self home cur → Segments path →
    less.path cur path = .place target left → Placed self target
  splits : ∀ {front cur}, Segments front → cur ∈ self.modules →
    Splits self less.on rest (less.on cur (front ++ rest)) (less.on cur front)
  settles : ∀ cur rest, (less.on cur rest).Settles (self.reads_on home fewer cur rest)

/-- A path splits if those behind its aliases do. -/
theorem reads_on_splits_step (hforest : Forest self) {fewer : Option Following}
    (hfewer : ∀ less, fewer = some less → Splittable self home rest fewer less)
    (hfront : Segments front) {cur : String} (hcur : cur ∈ self.modules) :
    Splits self (self.reads_on home fewer) rest (self.reads_on home fewer cur (front ++ rest))
      (self.reads_on home fewer cur front) := by
  induction front generalizing cur with
  | nil =>
    intro _
    rw [continues_of_mem hcur, List.nil_append]
  | cons seg front ih =>
    obtain ⟨info, hinfo⟩ := exists_of_mem hcur
    obtain ⟨hseg, hothers⟩ := List.forall_mem_cons.mp hfront
    rw [List.cons_append, reads_on_cons hinfo, reads_on_cons hinfo]
    cases hleads : info.leads cur seg with
    | some next => exact ih hothers (leads_rooted hforest hinfo hseg hleads).there
    | none =>
      cases halias : info.aliases[seg]?.filter fun _ => info.root = home with
      | none => rfl
      | some path =>
        obtain ⟨halias, hhome⟩ := Option.filter_eq_some_iff.mp halias
        have hhome : info.root = home := by simpa using hhome
        cases fewer with
        | none => rfl
        | some less =>
          obtain ⟨hplaced, hsplits, hsettles⟩ := hfewer less rfl
          dsimp only
          cases hpath : less.path cur path with
          | deep => rfl
          | nothing => rfl
          | place target left =>
            have htarget := hplaced ⟨info, hinfo, hhome⟩
              ((hforest.entry hinfo).aliases seg path halias) hpath
            exact (htarget.splits hforest hothers fun hcur => hsplits hothers hcur).mono hsettles

/-- A path read on from a module is its front read on, and then the rest. -/
theorem reads_on_splits (hforest : Forest self) {aliases : Nat} (haliases : aliases ≤ ALIAS_DEPTH)
    (hfront : Segments front) (rest : List String) {cur : String} (hcur : cur ∈ self.modules) :
    Splits self (self.reads_on home (self.following home aliases)) rest
      (self.reads_on home (self.following home aliases) cur (front ++ rest))
      (self.reads_on home (self.following home aliases) cur front) := by
  induction aliases generalizing front cur with
  | zero =>
    refine reads_on_splits_step hforest ?_ hfront hcur
    rintro _ ⟨⟩
  | succ aliases ih =>
    refine reads_on_splits_step hforest ?_ hfront hcur
    rintro _ ⟨⟩
    have hfewer : aliases ≤ ALIAS_DEPTH := Nat.le_of_succ_le haliases
    refine ⟨fun hmodule hsegs hreads => placed_of_reads hforest hfewer hmodule hsegs hreads,
      fun hfront hcur => ih hfewer hfront hcur, ?_⟩
    exact (extends_following self home (Nat.le_succ aliases)).reads_on

/-- So does a path that enters a crate. -/
theorem reads_crate_splits (hforest : Forest self) {aliases : Nat} (haliases : aliases ≤ ALIAS_DEPTH)
    {name : String} (hname : Segment name) (hfront : Segments front) (rest : List String) :
    Splits self (self.reads_on home (self.following home aliases)) rest
      (self.reads_crate (self.reads_on home (self.following home aliases)) name (front ++ rest))
      (self.reads_crate (self.reads_on home (self.following home aliases)) name front) := by
  unfold reads_crate
  split
  · rename_i hscanned
    exact reads_on_splits hforest haliases hfront rest (scanned_iff.mp hscanned).2
  · rename_i hunscanned
    have houtside : Outside self name front := ⟨mt scanned_iff.mpr hunscanned, hname, hfront⟩
    intro _
    rw [continues_of_not_mem (hforest.not_mem_of_outside houtside), join_append]

/-- A path that is written in a crate is its front, and then the rest. -/
theorem reads_splits (hforest : Forest self) {aliases : Nat} (haliases : aliases ≤ ALIAS_DEPTH)
    {module first : String} (hmodule : Rooted self home module) (hfirst : Segment first)
    (hfront : Segments front) (rest : List String) (leading_colon : Bool) :
    Splits self (self.reads_on home (self.following home aliases)) rest
      (self.reads home (self.following home aliases) module (first :: front ++ rest) leading_colon)
      (self.reads home (self.following home aliases) module (first :: front) leading_colon) := by
  obtain ⟨info, hinfo, hhome⟩ := hmodule
  have hcrate := @reads_crate_splits _ home _ hforest _ haliases _ hfirst hfront rest
  cases leading_colon with
  | true =>
    rw [List.cons_append, reads_rooted hinfo, reads_rooted hinfo]
    exact hcrate
  | false =>
    rw [List.cons_append, reads_cons hinfo, reads_cons hinfo]
    split
    · exact reads_on_splits hforest haliases hfront rest (hforest.root hinfo).there
    cases hleads : info.leads module first with
    | some next =>
      exact reads_on_splits hforest haliases hfront rest (leads_rooted hforest hinfo hfirst hleads).there
    | none =>
      cases halias : info.aliases[first]? with
      | none =>
        dsimp only
        split
        · exact hcrate
        · rfl
      | some path =>
        cases aliases with
        | zero => rfl
        | succ fewer =>
          dsimp only [following]
          cases hpath : self.reads home (self.following home fewer) module path false with
          | deep => rfl
          | nothing => rfl
          | place target left =>
            have htarget := placed_of_reads hforest (Nat.le_of_succ_le haliases)
              ⟨info, hinfo, hhome⟩ ((hforest.entry hinfo).aliases first path halias) hpath
            exact htarget.splits hforest hfront fun hcur =>
              reads_on_splits hforest haliases hfront rest hcur

end

end Scanner

end archlint.scan
