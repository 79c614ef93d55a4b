import AngzarrRouter.Archlint.Scan.Written

open calls calls.MutCall
open text archlint.model archlint.syntax

namespace archlint.scan

/-- The module that a file's items declare, at any depth of inline ones, with
its own file found. -/
inductive DeclaresIn [Alphanumeric] (sources : Sources) : Ctx → List Item → Ctx → Prop where
  | declared {ctx : Ctx} {items : List Item} {attrs : List Attribute} {ident : Ident}
    {found : PathBuf × PathBuf} (hitem : .Mod attrs ident none ∈ items)
    (hfile : Scanner.mod_file sources ctx ident.to_string attrs = some found) :
    DeclaresIn sources ctx items (ctx.declared attrs ident found)
  | inline {ctx opened : Ctx} {items inner : List Item} {attrs : List Attribute} {ident : Ident}
    (hitem : .Mod attrs ident (some inner) ∈ items)
    (hinside : DeclaresIn sources (ctx.inline attrs ident) inner opened) :
    DeclaresIn sources ctx items opened

/-- The file of one module declares another, in a file of its own. -/
def Opens [Alphanumeric] (sources : Sources) (ctx opened : Ctx) : Prop :=
  ∃ source items, sources.read ctx.file = some source ∧ sources.parse_file source = .ok items ∧
    DeclaresIn sources ctx items opened

/-- A chain of modules, so many below the first, each declared in the file of
the one before it. -/
inductive Deep [Alphanumeric] (sources : Sources) : Nat → Ctx → Prop where
  | first (ctx : Ctx) : Deep sources 0 ctx
  | next {depth : Nat} {ctx opened : Ctx} (hopens : Opens sources ctx opened)
    (hdeep : Deep sources depth opened) : Deep sources (depth + 1) ctx

/-- A call runs out only if something holds, and does not end well if it does. -/
structure RunsOut (call : MutCall Scanner String Unit) (p : Prop) : Prop where
  of_panic : call.2 = .panic → p
  of_ok : call.2 = .ok () → ¬ p

section

variable {call : MutCall Scanner String Unit} {next : Scanner → Unit → MutCall Scanner String Unit}
  {p q : Prop}

theorem RunsOut.congr (hcall : RunsOut call p) (hsame : p ↔ q) : RunsOut call q :=
  ⟨fun hpanic => hsame.mp (hcall.of_panic hpanic), fun hok hq => hcall.of_ok hok (hsame.mpr hq)⟩

theorem RunsOut.done (scanner : Scanner) : RunsOut (scanner, .ok ()) False := ⟨nofun, fun _ => id⟩

theorem RunsOut.failed (scanner : Scanner) (error : String) : RunsOut (scanner, .err error) p :=
  ⟨nofun, nofun⟩

/-- A call and what follows it run out where either does. -/
theorem RunsOut.andThen (hcall : RunsOut call p) (hnext : ∀ scanner, RunsOut (next scanner ()) q) :
    RunsOut (call.andThen next) (p ∨ q) := by
  obtain ⟨scanner, ⟨⟩ | error | _⟩ := call
  · refine ⟨fun hpanic => .inr ((hnext scanner).of_panic hpanic), fun hok => ?_⟩
    exact not_or.mpr ⟨hcall.of_ok rfl, (hnext scanner).of_ok hok⟩
  · exact ⟨nofun, nofun⟩
  · exact ⟨fun _ => .inl (hcall.of_panic rfl), nofun⟩

end

/-- A call comes back as another does, where that one does not unwind. -/
def Lasts (call longer : MutCall Scanner String Unit) : Prop := call.2 ≠ .panic → longer = call

/-- They last on a larger stack if both do. -/
theorem Lasts.andThen {call longer : MutCall Scanner String Unit}
    {next next' : Scanner → Unit → MutCall Scanner String Unit} (hcall : Lasts call longer)
    (hnext : ∀ scanner, Lasts (next scanner ()) (next' scanner ())) :
    Lasts (call.andThen next) (longer.andThen next') := by
  obtain ⟨scanner, ⟨⟩ | error | _⟩ := call
  · intro hends
    rw [hcall nofun]
    exact hnext scanner hends
  · intro _
    rw [hcall nofun]
    rfl
  · exact fun hends => absurd rfl hends

section

variable [Alphanumeric] {sources : Sources} {ctx opened : Ctx} {item : Item} {items : List Item}

/-- What some items declare, more of them do. -/
theorem DeclaresIn.mono {more : List Item} (hdeclares : DeclaresIn sources ctx items opened)
    (hitems : items ⊆ more) : DeclaresIn sources ctx more opened := by
  cases hdeclares with
  | declared hitem hfile => exact .declared (hitems hitem) hfile
  | inline hitem hinside => exact .inline (hitems hitem) hinside

theorem declaresIn_cons : DeclaresIn sources ctx (item :: items) opened ↔
    DeclaresIn sources ctx [item] opened ∨ DeclaresIn sources ctx items opened := by
  constructor
  · intro hdeclares
    cases hdeclares with
    | declared hitem hfile =>
      obtain rfl | hitem := List.mem_cons.mp hitem
      · exact .inl (.declared (List.mem_singleton_self _) hfile)
      · exact .inr (.declared hitem hfile)
    | inline hitem hinside =>
      obtain rfl | hitem := List.mem_cons.mp hitem
      · exact .inl (.inline (List.mem_singleton_self _) hinside)
      · exact .inr (.inline hitem hinside)
  · rintro (hdeclares | hdeclares)
    · exact hdeclares.mono (by simp)
    · exact hdeclares.mono (List.subset_cons_self ..)

theorem not_declaresIn_nil : ¬ DeclaresIn sources ctx [] opened := by
  intro hdeclares
  cases hdeclares with
  | declared hitem _ => exact absurd hitem List.not_mem_nil
  | inline hitem _ => exact absurd hitem List.not_mem_nil

variable {root : String} {walk_file : Scanner → String → Ctx → MutCall Scanner String Unit}
  {p : Ctx → Prop}

mutual

/-- A walk of items runs out where one of the files it walks does. -/
theorem runsOut_walk_items (hfile : ∀ scanner ctx, RunsOut (walk_file scanner root ctx) (p ctx))
    (scanner : Scanner) (ctx : Ctx) :
    ∀ items, RunsOut (scanner.walk_items sources walk_file root ctx items)
      (∃ opened, DeclaresIn sources ctx items opened ∧ p opened)
  | [] => (RunsOut.done scanner).congr (by simp [not_declaresIn_nil])
  | item :: items => by
    have hitem := runsOut_walk_item hfile scanner ctx item
    have hsplit : ∀ opened, DeclaresIn sources ctx (item :: items) opened ↔
        DeclaresIn sources ctx [item] opened ∨ DeclaresIn sources ctx items opened :=
      fun _ => declaresIn_cons
    refine (hitem.andThen fun scanner => runsOut_walk_items hfile scanner ctx items).congr ?_
    rw [← exists_or]
    simp only [hsplit, or_and_right]

/-- Walking an item runs out where a file that it declares does. -/
theorem runsOut_walk_item (hfile : ∀ scanner ctx, RunsOut (walk_file scanner root ctx) (p ctx))
    (scanner : Scanner) (ctx : Ctx) :
    ∀ item, RunsOut (scanner.walk_item sources walk_file root ctx item)
      (∃ opened, DeclaresIn sources ctx [item] opened ∧ p opened)
  | .Mod attrs ident none => by
    rw [Scanner.walk_item, Scanner.walk_mod]
    dsimp only
    split
    · rename_i file child_dir hfound
      refine (hfile scanner (ctx.declared attrs ident (file, child_dir))).congr ⟨fun hp => ?_, ?_⟩
      · exact ⟨_, .declared (List.mem_singleton_self _) hfound, hp⟩
      · rintro ⟨opened, hdeclares, hp⟩
        cases hdeclares with
        | declared hitem hfile =>
          obtain ⟨rfl, rfl, _⟩ := Item.Mod.inj (List.mem_singleton.mp hitem)
          obtain rfl := Option.some.inj (hfile.symm.trans hfound)
          exact hp
        | inline hitem _ => exact absurd (List.mem_singleton.mp hitem) (by simp)
    · rename_i hmissing
      refine (RunsOut.done _).congr ⟨False.elim, ?_⟩
      rintro ⟨opened, hdeclares, _⟩
      cases hdeclares with
      | declared hitem hfile =>
        obtain ⟨rfl, rfl, _⟩ := Item.Mod.inj (List.mem_singleton.mp hitem)
        exact absurd (hfile.symm.trans hmissing) nofun
      | inline hitem _ => exact absurd (List.mem_singleton.mp hitem) (by simp)
  | .Mod attrs ident (some inner) => by
    rw [Scanner.walk_item, Scanner.walk_mod]
    have hinner := runsOut_walk_items hfile (scanner.register root (ctx.inline attrs ident))
      (ctx.inline attrs ident) inner
    refine hinner.congr (exists_congr fun opened => and_congr_left fun _ =>
      ⟨.inline (List.mem_singleton_self _), fun hdeclares => ?_⟩)
    cases hdeclares with
    | declared hitem _ => exact absurd (List.mem_singleton.mp hitem) (by simp)
    | inline hitem hinside =>
      obtain ⟨rfl, rfl, hitems⟩ := Item.Mod.inj (List.mem_singleton.mp hitem)
      obtain rfl := Option.some.inj hitems
      exact hinside
  | .Use u => by
    refine (RunsOut.done _).congr ⟨False.elim, ?_⟩
    rintro ⟨opened, hdeclares, _⟩
    cases hdeclares with
    | declared hitem _ => exact absurd (List.mem_singleton.mp hitem) nofun
    | inline hitem _ => exact absurd (List.mem_singleton.mp hitem) nofun
  | .Other attrs children => by
    refine (RunsOut.done _).congr ⟨False.elim, ?_⟩
    rintro ⟨opened, hdeclares, _⟩
    cases hdeclares with
    | declared hitem _ => exact absurd (List.mem_singleton.mp hitem) nofun
    | inline hitem _ => exact absurd (List.mem_singleton.mp hitem) nofun

end

/-- A walk of a file runs out of a stack only if its modules are declared in a
chain of as many files, and ends well only if there is none. -/
theorem runsOut_walk_file (sources : Sources) (stack : Nat) (root : String) (scanner : Scanner)
    (ctx : Ctx) :
    RunsOut (scanner.walk_file sources stack root ctx) (Deep sources stack ctx) := by
  induction stack generalizing scanner ctx with
  | zero => exact ⟨fun _ => .first ctx, nofun⟩
  | succ stack ih =>
    unfold Scanner.walk_file
    cases hread : sources.read ctx.file with
    | none => exact RunsOut.failed _ _
    | some source =>
      dsimp only
      cases hparse : sources.parse_file source with
      | error e => exact RunsOut.failed _ _
      | ok items =>
        refine (runsOut_walk_items ih (scanner.register root ctx) ctx items).congr
          ⟨?_, fun hdeep => ?_⟩
        · rintro ⟨opened, hdeclares, hdeep⟩
          exact .next ⟨source, items, hread, hparse, hdeclares⟩ hdeep
        · cases hdeep with
          | next hopens hdeep =>
            obtain ⟨_, _, hread', hparse', hdeclares⟩ := hopens
            obtain rfl := Option.some.inj (hread'.symm.trans hread)
            obtain rfl := Except.ok.inj (hparse'.symm.trans hparse)
            exact ⟨_, hdeclares, hdeep⟩

variable {longer : Scanner → String → Ctx → MutCall Scanner String Unit}

mutual

/-- Walking items lasts if walking files does. -/
theorem lasts_walk_items
    (hfile : ∀ scanner ctx, Lasts (walk_file scanner root ctx) (longer scanner root ctx))
    (scanner : Scanner) (ctx : Ctx) :
    ∀ items, Lasts (scanner.walk_items sources walk_file root ctx items)
      (scanner.walk_items sources longer root ctx items)
  | [] => fun _ => rfl
  | item :: items =>
    (lasts_walk_item hfile scanner ctx item).andThen fun scanner =>
      lasts_walk_items hfile scanner ctx items

theorem lasts_walk_item
    (hfile : ∀ scanner ctx, Lasts (walk_file scanner root ctx) (longer scanner root ctx))
    (scanner : Scanner) (ctx : Ctx) :
    ∀ item, Lasts (scanner.walk_item sources walk_file root ctx item)
      (scanner.walk_item sources longer root ctx item)
  | .Mod attrs ident none => by
    simp only [Scanner.walk_item, Scanner.walk_mod]
    split
    · exact hfile _ _
    · exact fun _ => rfl
  | .Mod attrs ident (some inner) => by
    simp only [Scanner.walk_item, Scanner.walk_mod]
    exact lasts_walk_items hfile _ _ _
  | .Use u => fun _ => rfl
  | .Other attrs children => fun _ => rfl

end

/-- A walk of a file that a stack suffices for comes back the same with more. -/
theorem lasts_walk_file (sources : Sources) {stack larger : Nat} (hlarger : stack ≤ larger)
    (root : String) (scanner : Scanner) (ctx : Ctx) :
    Lasts (scanner.walk_file sources stack root ctx) (scanner.walk_file sources larger root ctx) := by
  induction stack generalizing larger scanner ctx with
  | zero => exact fun hends => absurd rfl hends
  | succ stack ih =>
    obtain ⟨larger, rfl⟩ : ∃ more, larger = more + 1 := ⟨larger - 1, by omega⟩
    have hfile := ih (Nat.le_of_succ_le_succ hlarger)
    unfold Scanner.walk_file
    cases hread : sources.read ctx.file with
    | none => exact fun _ => rfl
    | some source =>
      dsimp only
      cases hparse : sources.parse_file source with
      | error e => exact fun _ => rfl
      | ok items => exact lasts_walk_items hfile _ _ items

end

/-- A module that a file's items declare, at any depth of inline ones. -/
inductive HasMod : List Item → List Attribute → Ident → Prop where
  | here {items : List Item} {attrs : List Attribute} {ident : Ident} {content : Option (List Item)}
    (hitem : .Mod attrs ident content ∈ items) : HasMod items attrs ident
  | inside {items inner : List Item} {attrs around : List Attribute} {ident outer : Ident}
    (hitem : .Mod around outer (some inner) ∈ items) (hinner : HasMod inner attrs ident) :
    HasMod items attrs ident

/-- Sources whose modules lie where their names say, in all the texts that are
read, none of them under a path with more components than so many. -/
structure Conventional (sources : Sources) (depth : Nat) : Prop where
  is_file : ∀ path, sources.is_file path = true → path.components.length ≤ depth
  no_path : ∀ {path source items attrs ident}, sources.read path = some source →
    sources.parse_file source = .ok items → HasMod items attrs ident → path_attr attrs = none
  /-- An identifier is letters, digits and `_`, or that after `r#`. -/
  ident : ∀ {path source items attrs ident}, sources.read path = some source →
    sources.parse_file source = .ok items → HasMod items attrs ident →
      '/' ∉ ident.to_string.toList ∧ '.' ∉ ident.to_string.toList

/-- A name that is one component of a path. -/
theorem of_file_name {name : String} (hslash : '/' ∉ name.toList) (hempty : name ≠ "")
    (hdot : name ≠ ".") (hdots : name ≠ "..") : PathBuf.of name = ⟨[.Normal name]⟩ := by
  have hpieces := pieces_of_not_mem [] hslash
  have hsplit : split "/" name = [name] := by simp [split, hpieces]
  simp [PathBuf.of, hsplit, PathBuf.component, hempty, hdot, hdots]

/-- A name makes a path one longer. -/
theorem length_join_normal (path : PathBuf) (name : String) :
    (path.join ⟨[.Normal name]⟩).components.length = path.components.length + 1 := by
  unfold PathBuf.join
  split <;> simp_all

/-- A module's own file lies in the directory its parent's modules do. -/
theorem Conventional.declared {sources : Sources} {depth : Nat} {ctx : Ctx}
    (hsources : Conventional sources depth) {attrs : List Attribute} {name : String}
    (hattrs : path_attr attrs = none) (hslash : '/' ∉ name.toList)
    (hdot : '.' ∉ name.toList) (hempty : name ≠ "") {found : PathBuf × PathBuf}
    (hfound : Scanner.mod_file sources ctx name attrs = some found) :
    found.2.components.length = ctx.child_dir.components.length + 1 ∧
      found.2.components.length ≤ depth := by
  have hname : PathBuf.of name = ⟨[.Normal name]⟩ := by
    refine of_file_name hslash hempty ?_ ?_ <;> rintro rfl <;> exact hdot (by decide)
  have hflat : PathBuf.of (name ++ ".rs") = ⟨[.Normal (name ++ ".rs")]⟩ := by
    have hlength : 3 ≤ (name ++ ".rs").length := by
      rw [String.length_append, show (".rs" : String).length = 3 from rfl]
      exact Nat.le_add_left ..
    refine of_file_name (by simpa using hslash) ?_ ?_ ?_ <;> intro heq <;> rw [heq] at hlength <;>
      exact absurd hlength (by decide)
  have hnested : PathBuf.of "mod.rs" = ⟨[.Normal "mod.rs"]⟩ := by decide
  simp only [Scanner.mod_file, hattrs, hname, hflat, hnested] at hfound
  split at hfound
  · rename_i hfile
    obtain rfl := Option.some.inj hfound
    have hbound := hsources.is_file _ hfile
    simp only [length_join_normal] at hbound ⊢
    exact ⟨trivial, hbound⟩
  split at hfound
  · rename_i hfile
    obtain rfl := Option.some.inj hfound
    have hbound := hsources.is_file _ hfile
    simp only [length_join_normal] at hbound ⊢
    exact ⟨trivial, Nat.le_of_succ_le hbound⟩
  · cases hfound

section

variable [Alphanumeric] {sources : Sources} {depth : Nat} {ctx opened : Ctx}

/-- A module that opens another has a shorter directory for its own. -/
theorem Conventional.declaresIn (hsources : Conventional sources depth) {items : List Item}
    (hitems : ∀ {attrs ident}, HasMod items attrs ident → path_attr attrs = none ∧
      '/' ∉ ident.to_string.toList ∧ '.' ∉ ident.to_string.toList)
    (hdeclares : DeclaresIn sources ctx items opened) :
    ctx.child_dir.components.length < opened.child_dir.components.length ∧
      opened.child_dir.components.length ≤ depth := by
  induction hdeclares with
  | @declared ctx items attrs ident found hitem hfile =>
    obtain ⟨hattrs, hslash, hdot⟩ := hitems (.here hitem)
    obtain ⟨hlonger, hbound⟩ := hsources.declared hattrs hslash hdot ident.ne_empty hfile
    exact ⟨by simp only [Ctx.declared]; omega, hbound⟩
  | @inline ctx opened items inner attrs ident hitem _ ih =>
    obtain ⟨_, hslash, hdot⟩ := hitems (.here hitem)
    obtain ⟨hlonger, hbound⟩ := ih fun hinner => hitems (.inside hitem hinner)
    have hname : PathBuf.of ident.to_string = ⟨[.Normal ident.to_string]⟩ := by
      refine of_file_name hslash ident.ne_empty ?_ ?_ <;> intro heq <;> rw [heq] at hdot <;>
        exact hdot (by decide)
    simp only [Ctx.inline, hname, length_join_normal] at hlonger
    exact ⟨by omega, hbound⟩

/-- No chain of modules is longer than the path of a file is deep. -/
theorem Conventional.not_deep (hsources : Conventional sources depth) (ctx : Ctx) :
    ¬ Deep sources (depth + 1) ctx := by
  have hchain : ∀ {steps : Nat} {ctx : Ctx}, Deep sources steps ctx →
      steps = 0 ∨ ctx.child_dir.components.length + steps ≤ depth := by
    intro steps ctx hdeep
    induction hdeep with
    | first ctx => exact .inl rfl
    | next hopens _ ih =>
      obtain ⟨source, items, hread, hparse, hdeclares⟩ := hopens
      obtain ⟨hlonger, hbound⟩ := hsources.declaresIn (fun hmod =>
        ⟨hsources.no_path hread hparse hmod, hsources.ident hread hparse hmod⟩) hdeclares
      omega
  intro hdeep
  have := hchain hdeep
  omega

end

end archlint.scan
