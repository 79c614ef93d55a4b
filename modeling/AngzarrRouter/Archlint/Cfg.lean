import AngzarrRouter.Archlint.Syntax
import AngzarrRouter.Logic.Formula

open logic text

namespace archlint.syntax

/-- A build's flag, or one of its options with a value. -/
inductive Setting where
  | flag (name : String)
  | option (key value : String)
deriving DecidableEq, Repr

/-- A flag, or `key = "value"`, as it is written: its name raw or not, its
value as a literal. -/
inductive Leaf where
  | flag (raw : Bool) (name : String)
  | option (raw : Bool) (key value literal : String)
deriving DecidableEq, Repr

def Leaf.setting : Leaf → Setting
  | .flag _ name => .flag name
  | .option _ key value _ => .option key value

/-- A predicate of `cfg(..)`. -/
abbrev Cfg : Type := Formula Leaf

/-- An item gated by the predicates is compiled in builds with `test` alone. -/
def RequiresTest (cfgs : List Cfg) : Prop :=
  ∀ build : Setting → Bool, (∀ cfg ∈ cfgs, cfg.holds (build ∘ Leaf.setting) = true) →
    build (.flag "test") = true

def ident_text (raw : Bool) (name : String) : String := if raw then "r#" ++ name else name

/-- Nothing but blanks. -/
def Blank (gap : String) : Prop := ∀ c ∈ gap.toList, c = ' ' ∨ c = '\n'

instance (gap : String) : Decidable (Blank gap) :=
  List.decidableBAll (fun c => c = ' ' ∨ c = '\n') gap.toList

/-- A mark with blanks around it, or none. -/
def Around (mark text : String) : Prop :=
  ∃ before behind, Blank before ∧ Blank behind ∧ text = before ++ mark ++ behind

/-- The end of a list: a parenthesis, after a comma or not. -/
def Closes (text : String) : Prop :=
  Around ")" text ∨ ∃ comma close, Around "," comma ∧ Around ")" close ∧ text = comma ++ close

def Leaf.Prints : Leaf → String → Prop
  | .flag raw name, text => text = ident_text raw name
  | .option raw key _ literal, text =>
    ∃ mark, Around "=" mark ∧ text = ident_text raw key ++ mark ++ literal

mutual

/-- A text of a predicate's tokens, whatever the blanks between them. -/
def Prints : Cfg → String → Prop
  | .leaf l, text => l.Prints text
  | .all cfgs, text => ∃ mark body close, Around "(" mark ∧ PrintsList cfgs body ∧ Closes close ∧
      text = "all" ++ mark ++ body ++ close
  | .any cfgs, text => ∃ mark body close, Around "(" mark ∧ PrintsList cfgs body ∧ Closes close ∧
      text = "any" ++ mark ++ body ++ close
  | .not cfg, text => ∃ mark body close, Around "(" mark ∧ Prints cfg body ∧ Closes close ∧
      text = "not" ++ mark ++ body ++ close

def PrintsList : List Cfg → String → Prop
  | [], text => text = ""
  | cfg :: cfgs, text => (cfgs = [] ∧ Prints cfg text) ∨
      ∃ front comma rest, Prints cfg front ∧ Around "," comma ∧ PrintsList cfgs rest ∧
        text = front ++ comma ++ rest

end

section

variable [Alphanumeric]

mutual

/-- The words of a predicate's text. -/
def cfg_words : Cfg → List String
  | .leaf (.flag raw name) => words (ident_text raw name)
  | .leaf (.option raw key _ literal) => words (ident_text raw key) ++ words literal
  | .all cfgs => "all" :: list_words cfgs
  | .any cfgs => "any" :: list_words cfgs
  | .not cfg => "not" :: cfg_words cfg

def list_words : List Cfg → List String
  | [] => []
  | cfg :: cfgs => cfg_words cfg ++ list_words cfgs

end

/-- The predicates that the `cfg` attributes among `attrs` hold, in their
order. -/
inductive Gates : List Attribute → List Cfg → Prop where
  | nil : Gates [] []
  | cfg {attrs : List Attribute} {cfgs : List Cfg} {cfg : Cfg} {lead text trail : String}
      (hlead : Blank lead) (hprints : Prints cfg text) (htrail : Blank trail ∨ Around "," trail)
      (hrest : Gates attrs cfgs) :
      Gates ({ ident := some "cfg", contents := .List (lead ++ text ++ trail) } :: attrs)
        (cfg :: cfgs)
  | other {attrs : List Attribute} {cfgs : List Cfg} {a : Attribute} (hother : a.ident ≠ some "cfg")
      (hrest : Gates attrs cfgs) : Gates (a :: attrs) cfgs

/-- A text that parts the words before it from those after. -/
def Parts (text : String) : Prop :=
  ∀ c ∈ text.toList, (Alphanumeric.is_alphanumeric c || c == '_') = false

/-- What stands on either side of a text that parts words has its own words. -/
theorem words_append (front back : String) {gap : String} (hgap : Parts gap) (hne : gap ≠ "") :
    words (front ++ gap ++ back) = words front ++ words back := by
  have hparts : ∀ c ∈ gap.toList, (!(Alphanumeric.is_alphanumeric c || c == '_')) = true :=
    fun c hc => by rw [hgap c hc]; rfl
  have hletters : gap.toList ≠ [] := fun hnil => hne (String.toList_inj.mp hnil)
  simp only [words, String.toList_append, filter_splitOnP_append front.toList hparts hletters,
    List.map_append]

theorem words_empty : words "" = [] := rfl

/-- A gap behind a text adds no word to it. -/
theorem words_append_parts (front : String) {gap : String} (hgap : Parts gap) (hne : gap ≠ "") :
    words (front ++ gap) = words front := by
  have happend := words_append front "" hgap hne
  rw [String.append_empty] at happend
  rw [happend, words_empty, List.append_nil]

/-- A text of letters is one word. -/
theorem words_of_letters {word : String} (hne : word ≠ "")
    (hword : (word.toList.all fun c => c.toNat < 128 && c.isAlphanum) = true) : words word = [word] := by
  have hletters : ∀ c ∈ word.toList, (!(Alphanumeric.is_alphanumeric c || c == '_')) = false := by
    intro c hc
    obtain ⟨hascii, halnum⟩ := Bool.and_eq_true_iff.mp (List.all_eq_true.mp hword c hc)
    rw [Alphanumeric.ascii c (of_decide_eq_true hascii), halnum]
    rfl
  have hnil : word.toList.isEmpty = false := by simpa using hne
  rw [words, List.splitOnP_eq_singleton hletters, List.filter_singleton, hnil, Bool.not_false,
    cond_true, List.map_singleton, String.ofList_toList]

/-- A text without letters, digits or `_` parts words. -/
theorem parts_of_ascii {text : String}
    (htext : (text.toList.all fun c => c.toNat < 128 && !c.isAlphanum && c != '_') = true) :
    Parts text := by
  intro c hc
  have hmark := List.all_eq_true.mp htext c hc
  obtain ⟨⟨hascii, halnum⟩, hne⟩ : (c.toNat < 128 ∧ c.isAlphanum = false) ∧ c ≠ '_' := by
    simpa using hmark
  rw [Alphanumeric.ascii c hascii, halnum, Bool.false_or, beq_eq_false_iff_ne]
  exact hne

theorem Blank.parts {gap : String} (hgap : Blank gap) : Parts gap := by
  refine parts_of_ascii (List.all_eq_true.mpr fun c hc => ?_)
  obtain rfl | rfl := hgap c hc <;> decide

/-- Two gaps side by side are one. -/
theorem Parts.append {left right : String} (hleft : Parts left) (hright : Parts right) :
    Parts (left ++ right) := by
  intro c hc
  rw [String.toList_append] at hc
  exact (List.mem_append.mp hc).elim (hleft c) (hright c)

/-- A mark parts words, whatever blanks are around it. -/
theorem Around.parts {mark text : String} (h : Around mark text)
    (hmark : mark ∈ ["(", ")", ",", "="]) : Parts text ∧ text ≠ "" := by
  obtain ⟨before, behind, hbefore, hbehind, rfl⟩ := h
  have hascii : ∀ mark ∈ ["(", ")", ",", "="], mark ≠ "" ∧
      (mark.toList.all fun c => c.toNat < 128 && !c.isAlphanum && c != '_') = true := by decide
  obtain ⟨hne, hmark⟩ := hascii mark hmark
  refine ⟨(hbefore.parts.append (parts_of_ascii hmark)).append hbehind.parts, fun hempty => hne ?_⟩
  simp only [String.append_eq_empty_iff] at hempty
  exact hempty.1.2

/-- So does what closes a list. -/
theorem Closes.parts {text : String} (h : Closes text) : Parts text ∧ text ≠ "" := by
  obtain h | ⟨comma, close, hcomma, hclose, rfl⟩ := h
  · exact h.parts (by decide)
  · have hparts := hcomma.parts (by decide)
    refine ⟨hparts.1.append (hclose.parts (by decide)).1, fun hempty => hparts.2 ?_⟩
    exact (String.append_eq_empty_iff.mp hempty).1

/-- A name and a list in parentheses have the name and the list's words. -/
theorem words_call {name mark body close : String} (hmark : Around "(" mark) (hclose : Closes close)
    (hname : words name = [name]) : words (name ++ mark ++ body ++ close) = name :: words body := by
  have hparts := hmark.parts (by decide)
  rw [words_append_parts _ hclose.parts.1 hclose.parts.2, words_append _ _ hparts.1 hparts.2, hname]
  rfl

mutual

/-- The words of a predicate's text are its own, however it is spaced. -/
theorem words_of_prints : (cfg : Cfg) → {text : String} → Prints cfg text →
    words text = cfg_words cfg
  | .leaf (.flag raw name), _, hprints => congrArg words hprints
  | .leaf (.option raw key value literal), text, hprints => by
    obtain ⟨mark, hmark, rfl⟩ : ∃ mark, Around "=" mark ∧
      text = ident_text raw key ++ mark ++ literal := hprints
    have hparts := hmark.parts (by decide)
    rw [words_append _ _ hparts.1 hparts.2]
    rfl
  | .all cfgs, _, hprints => by
    obtain ⟨mark, body, close, hmark, hbody, hclose, rfl⟩ := hprints
    rw [words_call hmark hclose (words_of_letters (by decide) (by decide)),
      words_of_prints_list cfgs hbody]
    rfl
  | .any cfgs, _, hprints => by
    obtain ⟨mark, body, close, hmark, hbody, hclose, rfl⟩ := hprints
    rw [words_call hmark hclose (words_of_letters (by decide) (by decide)),
      words_of_prints_list cfgs hbody]
    rfl
  | .not cfg, _, hprints => by
    obtain ⟨mark, body, close, hmark, hbody, hclose, rfl⟩ := hprints
    rw [words_call hmark hclose (words_of_letters (by decide) (by decide)),
      words_of_prints cfg hbody]
    rfl

/-- So are the words of a list. -/
theorem words_of_prints_list : (cfgs : List Cfg) → {text : String} → PrintsList cfgs text →
    words text = list_words cfgs
  | [], _, hprints => congrArg words hprints
  | cfg :: cfgs, _, hprints => by
    obtain ⟨rfl, hfront⟩ | ⟨front, comma, rest, hfront, hcomma, hrest, rfl⟩ := hprints
    · rw [words_of_prints cfg hfront, list_words, list_words, List.append_nil]
    · have hparts := hcomma.parts (by decide)
      rw [words_append _ _ hparts.1 hparts.2, words_of_prints cfg hfront,
        words_of_prints_list cfgs hrest, list_words]

end

/-- A predicate with the word `test` and not the word `not`. -/
def names_test (cfg : Cfg) : Bool :=
  (cfg_words cfg).contains "test" && !(cfg_words cfg).contains "not"

/-- The attributes tell by the words of their predicates, one by one. -/
theorem is_cfg_test_of_gates {attrs : List Attribute} {cfgs : List Cfg} (h : Gates attrs cfgs) :
    is_cfg_test attrs = cfgs.any names_test := by
  induction h with
  | nil => rfl
  | @cfg attrs cfgs cfg lead text trail hlead hprints htrail _ ih =>
    have hwords : words (lead ++ text ++ trail) = cfg_words cfg := by
      have hfront : words (lead ++ text) = words text := by
        by_cases hne : lead = ""
        · rw [hne, String.empty_append]
        · have happend := words_append "" text hlead.parts hne
          rwa [String.empty_append, words_empty, List.nil_append] at happend
      have htrail : Parts trail := htrail.elim Blank.parts fun h => (h.parts (by decide)).1
      rw [← words_of_prints cfg hprints, ← hfront]
      by_cases hne : trail = ""
      · rw [hne, String.append_empty]
      · exact words_append_parts _ htrail hne
    rw [is_cfg_test, List.any_cons, List.any_cons, ← is_cfg_test, ih]
    simp only [hwords, names_test]
    rfl
  | @other attrs cfgs a hother _ ih =>
    have hident : (a.ident == some "cfg") = false := by simpa using hother
    rw [is_cfg_test, List.any_cons, ← is_cfg_test, hident, Bool.false_and, Bool.false_or, ih]

mutual

/-- A predicate without the word `not` has no `not`. -/
theorem positive_of_words : (cfg : Cfg) → "not" ∉ cfg_words cfg → cfg.positive = true
  | .leaf _, _ => rfl
  | .all cfgs, hwords => positive_of_list_words cfgs fun hmem => hwords (List.mem_cons_of_mem _ hmem)
  | .any cfgs, hwords => positive_of_list_words cfgs fun hmem => hwords (List.mem_cons_of_mem _ hmem)
  | .not _, hwords => absurd List.mem_cons_self hwords

/-- The same of a list. -/
theorem positive_of_list_words : (cfgs : List Cfg) → "not" ∉ list_words cfgs →
    all_positive cfgs = true
  | [], _ => rfl
  | cfg :: cfgs, hwords => by
    rw [list_words, List.mem_append, not_or] at hwords
    rw [all_positive, positive_of_words cfg hwords.1, positive_of_list_words cfgs hwords.2]
    rfl

end

/-- The flag `test`, raw or not. -/
def test_flag (leaf : Leaf) : Bool := decide (leaf.setting = .flag "test")

mutual

/-- A predicate that asks for the flag `test` has its word. -/
theorem test_word_of_asks {on : Bool} : (cfg : Cfg) → cfg.asks test_flag on = true →
    "test" ∈ cfg_words cfg
  | .leaf (.flag raw name), hasks => by
    obtain ⟨hname, _⟩ := Bool.and_eq_true_iff.mp hasks
    obtain rfl : name = "test" := Setting.flag.inj (of_decide_eq_true hname)
    have hletters : words "test" = ["test"] := words_of_letters (by decide) (by decide)
    cases raw with
    | false =>
      rw [cfg_words, show ident_text false "test" = "test" from rfl, hletters]
      exact List.mem_singleton_self _
    | true =>
      have hraw : words ("r" ++ "#" ++ "test") = words "r" ++ words "test" :=
        words_append "r" "test" (parts_of_ascii (by decide)) (by decide)
      rw [cfg_words, show ident_text true "test" = "r" ++ "#" ++ "test" from rfl, hraw, hletters]
      exact List.mem_append_right _ (List.mem_singleton_self _)
  | .leaf (.option raw key value literal), hasks => by
    obtain ⟨hname, _⟩ := Bool.and_eq_true_iff.mp hasks
    cases of_decide_eq_true hname
  | .all cfgs, hasks => List.mem_cons_of_mem _ (test_word_of_list_asks cfgs hasks)
  | .any cfgs, hasks => List.mem_cons_of_mem _ (test_word_of_list_asks cfgs hasks)
  | .not cfg, hasks => List.mem_cons_of_mem _ (test_word_of_asks cfg hasks)

/-- The same of a list. -/
theorem test_word_of_list_asks {on : Bool} : (cfgs : List Cfg) → any_asks test_flag on cfgs = true →
    "test" ∈ list_words cfgs
  | cfg :: cfgs, hasks => by
    obtain hasks | hasks := Bool.or_eq_true_iff.mp hasks
    · exact List.mem_append_left _ (test_word_of_asks cfg hasks)
    · exact List.mem_append_right _ (test_word_of_list_asks cfgs hasks)

end

/-- Predicates of a shape that their words tell. Either one of them, without a
`not`, asks for the flag `test` and needs it: it is the flag, an `all` with such
a predicate in it, or an `any` whose predicates all are. Or some build meets
them together, and each either has no word `test` in it, or has a `not` and asks
for the flag under an odd number of them only. -/
inductive Told (cfgs : List Cfg) : Prop where
  | gated {cfg : Cfg} (hcfg : cfg ∈ cfgs) (hplain : "not" ∉ cfg_words cfg)
      (hasks : cfg.asks test_flag true = true) (hneeds : cfg.needs test_flag = true)
  | free (hmet : ∃ build : Setting → Bool, ∀ cfg ∈ cfgs, cfg.holds (build ∘ Leaf.setting) = true)
      (hoff : ∀ cfg ∈ cfgs, "test" ∉ cfg_words cfg ∨
        "not" ∈ cfg_words cfg ∧ cfg.asks test_flag true = false)

omit [Alphanumeric] in
/-- A predicate that needs the flag `test` is met with it on alone. -/
theorem requires_test_of_needs {cfgs : List Cfg} {cfg : Cfg} (hcfg : cfg ∈ cfgs)
    (hneeds : cfg.needs test_flag = true) : RequiresTest cfgs := by
  intro build hmet
  obtain ⟨_, leaf, hflag, hon⟩ := cfg.on_of_needs hneeds (hmet cfg hcfg)
  rw [← of_decide_eq_true hflag]
  exact hon

omit [Alphanumeric] in
/-- Predicates that ask for it off only, and can be met, are met without it. -/
theorem not_requires_test_of_off {cfgs : List Cfg} {build : Setting → Bool}
    (hmet : ∀ cfg ∈ cfgs, cfg.holds (build ∘ Leaf.setting) = true)
    (hoff : ∀ cfg ∈ cfgs, cfg.asks test_flag true = false) : ¬ RequiresTest cfgs := by
  intro hrequires
  have hflag := hrequires (fun setting => build setting && !decide (setting = .flag "test"))
    fun cfg hcfg => cfg.holds_off true (hoff cfg hcfg) (hmet cfg hcfg)
  simp at hflag

/-- Without the word `not`, predicates that require the flag `test` have one that
needs it. -/
theorem exists_needs_of_requires_test {cfgs : List Cfg} (hplain : ∀ cfg ∈ cfgs, "not" ∉ cfg_words cfg)
    (hrequires : RequiresTest cfgs) : ∃ cfg ∈ cfgs, cfg.needs test_flag = true := by
  by_contra hnone
  have hflag := hrequires (fun setting => !decide (setting = .flag "test")) fun cfg hcfg => by
    have hneeds : cfg.needs test_flag = false :=
      Bool.eq_false_iff.mpr fun hneeds => hnone ⟨cfg, hcfg, hneeds⟩
    have hholds := cfg.holds_without test_flag (positive_of_words cfg (hplain cfg hcfg))
    rw [hneeds] at hholds
    exact hholds
  simp at hflag

/-- The attributes gate an item on `test` as `is_cfg_test` says, where their
predicates are of a shape that their words tell. -/
theorem Told.is_cfg_test_iff {attrs : List Attribute} {cfgs : List Cfg} (htold : Told cfgs)
    (hgates : Gates attrs cfgs) : is_cfg_test attrs = true ↔ RequiresTest cfgs := by
  rw [is_cfg_test_of_gates hgates]
  cases htold with
  | gated hcfg hplain hasks hneeds =>
    refine iff_of_true (List.any_eq_true.mpr ⟨_, hcfg, ?_⟩) (requires_test_of_needs hcfg hneeds)
    simp [names_test, hplain, test_word_of_asks _ hasks]
  | free hmet hoff =>
    obtain ⟨build, hmet⟩ := hmet
    have hasks : ∀ cfg ∈ cfgs, cfg.asks test_flag true = false := fun cfg hcfg =>
      (hoff cfg hcfg).elim
        (fun hword => Bool.eq_false_iff.mpr fun hasks => hword (test_word_of_asks cfg hasks)) And.right
    refine iff_of_false (fun hnames => ?_) (not_requires_test_of_off hmet hasks)
    obtain ⟨cfg, hcfg, hnames⟩ := List.any_eq_true.mp hnames
    obtain ⟨htest, hnot⟩ : "test" ∈ cfg_words cfg ∧ "not" ∉ cfg_words cfg := by
      simpa [names_test] using hnames
    exact (hoff cfg hcfg).elim (fun hword => hword htest) fun hoff => hnot hoff.1

/-- Where the word `not` is in none of them and some build meets them, they have
to be of that shape. -/
theorem told_of_is_cfg_test_iff {attrs : List Attribute} {cfgs : List Cfg} (hgates : Gates attrs cfgs)
    (hplain : ∀ cfg ∈ cfgs, "not" ∉ cfg_words cfg) {build : Setting → Bool}
    (hmet : ∀ cfg ∈ cfgs, cfg.holds (build ∘ Leaf.setting) = true)
    (htells : is_cfg_test attrs = true ↔ RequiresTest cfgs) : Told cfgs := by
  by_cases hword : ∃ cfg ∈ cfgs, "test" ∈ cfg_words cfg
  · obtain ⟨cfg, hcfg, hword⟩ := hword
    have hnames : is_cfg_test attrs = true := by
      rw [is_cfg_test_of_gates hgates]
      refine List.any_eq_true.mpr ⟨cfg, hcfg, ?_⟩
      simp [names_test, hplain cfg hcfg, hword]
    obtain ⟨cfg, hcfg, hneeds⟩ := exists_needs_of_requires_test hplain (htells.mp hnames)
    exact .gated hcfg (hplain cfg hcfg) (cfg.on_of_needs hneeds (hmet cfg hcfg)).1 hneeds
  · exact .free ⟨build, hmet⟩ fun cfg hcfg => .inl fun htest => hword ⟨cfg, hcfg, htest⟩

end

namespace ascii

/-- `char::is_alphanumeric` on ASCII. -/
scoped instance alphanumeric : Alphanumeric where
  is_alphanumeric c := c.toNat < 128 && c.isAlphanum
  ascii c hc := by rw [decide_eq_true hc, Bool.true_and]

/-- `#[cfg(text)]`. -/
def gate (text : String) : List Attribute := [{ ident := some "cfg", contents := .List text }]

def test_only : Cfg := .leaf (.flag false "test")

/-- `feature = "value"`. -/
def feature (value : String) : Cfg :=
  .leaf (.option false "feature" value ("\"" ++ value ++ "\""))

theorem around_bare (mark : String) : Around mark mark :=
  ⟨"", "", by decide, by decide, by simp⟩

theorem around_spaced (mark : String) : Around mark (" " ++ mark ++ " ") :=
  ⟨" ", " ", by decide, by decide, rfl⟩

theorem around_open : Around "(" " (" := ⟨" ", "", by decide, by decide, rfl⟩

theorem gates_one {cfg : Cfg} {text : String} (hprints : Prints cfg text) :
    Gates (gate text) [cfg] := by
  have hgates := Gates.cfg (by decide : Blank "") hprints (.inl (by decide : Blank "")) .nil
  rwa [String.empty_append, String.append_empty] at hgates

theorem gates_all : Gates (gate "all (test , feature = \"x\")") [.all [test_only, feature "x"]] := by
  refine gates_one ⟨" (", "test , feature = \"x\"", ")", around_open, ?_,
    .inl (around_bare ")"), rfl⟩
  exact .inr ⟨"test", " , ", "feature = \"x\"", rfl, around_spaced ",",
    .inl ⟨rfl, " = ", around_spaced "=", rfl⟩, rfl⟩

theorem gates_any : Gates (gate "any (test , feature = \"x\")") [.any [test_only, feature "x"]] := by
  refine gates_one ⟨" (", "test , feature = \"x\"", ")", around_open, ?_,
    .inl (around_bare ")"), rfl⟩
  exact .inr ⟨"test", " , ", "feature = \"x\"", rfl, around_spaced ",",
    .inl ⟨rfl, " = ", around_spaced "=", rfl⟩, rfl⟩

theorem gates_feature : Gates (gate "feature = \"test\"") [feature "test"] :=
  gates_one ⟨" = ", around_spaced "=", rfl⟩

theorem gates_without : Gates (gate "all (test , not (feature = \"x\"))")
    [.all [test_only, .not (feature "x")]] := by
  refine gates_one ⟨" (", "test , not (feature = \"x\")", ")", around_open, ?_,
    .inl (around_bare ")"), rfl⟩
  refine .inr ⟨"test", " , ", "not (feature = \"x\")", rfl, around_spaced ",", .inl ⟨rfl, ?_⟩, rfl⟩
  exact ⟨" (", "feature = \"x\"", ")", around_open, ⟨" = ", around_spaced "=", rfl⟩,
    .inl (around_bare ")"), rfl⟩

/-- An item in every build with the feature, or with another feature of that
name, is taken for a test's, and one in tests alone is not. -/
theorem is_cfg_test_misjudges :
    (Gates (gate "any (test , feature = \"x\")") [.any [test_only, feature "x"]] ∧
      ¬ (is_cfg_test (gate "any (test , feature = \"x\")") = true ↔
        RequiresTest [.any [test_only, feature "x"]])) ∧
      (Gates (gate "feature = \"test\"") [feature "test"] ∧
        ¬ (is_cfg_test (gate "feature = \"test\"") = true ↔ RequiresTest [feature "test"])) ∧
      (Gates (gate "all (test , not (feature = \"x\"))") [.all [test_only, .not (feature "x")]] ∧
        ¬ (is_cfg_test (gate "all (test , not (feature = \"x\"))") = true ↔
          RequiresTest [.all [test_only, .not (feature "x")]])) := by
  have hfeature (value : String) (cfgs : List Cfg)
      (hmet : ∀ cfg ∈ cfgs, cfg.holds (fun leaf => leaf.setting = .option "feature" value) = true) :
      ¬ RequiresTest cfgs := fun hrequires =>
    absurd (hrequires (fun setting => setting = .option "feature" value) hmet) (by simp)
  refine ⟨⟨gates_any, fun htells => ?_⟩, ⟨gates_feature, fun htells => ?_⟩, gates_without,
    fun htells => ?_⟩
  · exact hfeature "x" _ (by decide) (htells.mp (by decide))
  · exact hfeature "test" _ (by decide) (htells.mp (by decide))
  · have hrequires : RequiresTest [.all [test_only, .not (feature "x")]] :=
      requires_test_of_needs (List.mem_singleton_self _) (by decide)
    exact absurd (htells.mpr hrequires) (by decide)

end ascii

end archlint.syntax
