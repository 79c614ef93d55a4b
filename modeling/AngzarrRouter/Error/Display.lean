import AngzarrRouter.Error
import AngzarrRouter.Text.Pairs
import AngzarrRouter.Text.Named

open text

namespace angzarr_router.error

/-- `value` as a display writes it: bare, unless it would not parse back,
then double-quoted with its `"` and `\` backslash-escaped. -/
def write_value (value : String) : String :=
  let ambiguous := value.isEmpty ||
    value.toList.any fun c => is_whitespace c || c == '=' || c == '"' || c == '\\'
  if !ambiguous then value
  else "\"" ++ .ofList (escape value.toList) ++ "\""

namespace CodedError

/-- `fmt::Display`: the code, then ` name=value` for each arg. -/
def fmt (self : CodedError) : String :=
  self.code ++ .join (self.extras.toList.map fun (name, value) =>
    " " ++ name ++ "=" ++ write_value value)

/-- The code and the args a display shows. -/
def parse (text : String) : Option (String × Table String) :=
  (read_word_and_pairs text).map fun (code, args) => (code, .ofList args)

/-- Keys as the router's conventions have them: no whitespace, and in an arg's
name no `=` either. -/
structure Plain (e : CodedError) : Prop where
  code : ∀ c ∈ e.code.toList, is_whitespace c = false
  names : ∀ name ∈ e.extras.keys, ∀ c ∈ name.toList, is_whitespace c = false ∧ c ≠ '='

end CodedError

/-- A written value is read back up to where it ends. -/
theorem read_value_write_value (name : List Char) (value : String) {rest : List Char}
    (hrest : rest = [] ∨ rest.head? = some ' ') :
    read_value name ((write_value value).toList ++ rest) =
      followed_by name value.toList (read_pairs rest) := by
  rw [write_value]
  split
  case isTrue hbare =>
    obtain ⟨hempty, hany⟩ : value.toList ≠ [] ∧ ∀ c ∈ value.toList,
        is_whitespace c = false ∧ c ≠ '=' ∧ c ≠ '"' ∧ c ≠ '\\' := by
      simpa [and_assoc] using hbare
    obtain ⟨c, tail, hvalue⟩ := List.exists_cons_of_ne_nil hempty
    rw [hvalue] at hany ⊢
    have hspace : ' ' ∉ tail := fun hmem =>
      absurd (hany ' ' (List.mem_cons_of_mem c hmem)).1 (by decide)
    rw [List.cons_append, read_value]
    · exact read_bare_append [c] hspace hrest
    · exact fun h => (hany c List.mem_cons_self).2.2.1 h
  case isFalse =>
    have htext : ("\"" ++ .ofList (escape value.toList) ++ "\"").toList ++ rest =
        '"' :: (escape value.toList ++ '"' :: rest) := by
      simp
    rw [htext, read_value]
    exact read_quoted_escape [] rest

/-- The pairs a display writes are read back, in their order. -/
theorem read_pairs_join (args : List (String × String)) (hnames : ∀ arg ∈ args, '=' ∉ arg.1.toList) :
    let text := (String.join (args.map fun (name, value) =>
      " " ++ name ++ "=" ++ write_value value)).toList
    (text = [] ∨ text.head? = some ' ') ∧ read_pairs text = some args := by
  induction args with
  | nil => exact ⟨.inl rfl, rfl⟩
  | cons arg args ih =>
    obtain ⟨name, value⟩ := arg
    obtain ⟨hhead, hread⟩ := ih fun arg harg => hnames arg (List.mem_cons_of_mem _ harg)
    have hname : '=' ∉ name.toList := hnames (name, value) List.mem_cons_self
    simp only [List.map_cons, String.join_cons, String.toList_append, List.append_assoc]
    refine ⟨.inr rfl, ?_⟩
    change read_name [] (name.toList ++ '=' :: ((write_value value).toList ++ _)) = _
    rw [read_name_append [] _ hname, read_value_write_value _ _ hhead, hread]
    simp [followed_by]

/-- A display shows the code and every arg, whatever the values hold, and so
no two errors display alike. -/
theorem CodedError.parse_fmt (e : CodedError) (he : e.Plain) :
    parse e.fmt = some (e.code, e.extras) ∧
      ∀ other : CodedError, other.Plain → other.fmt = e.fmt →
        other.code = e.code ∧ other.extras = e.extras := by
  have hparse : ∀ e : CodedError, e.Plain → parse e.fmt = some (e.code, e.extras) := by
    intro e he
    have hcode : ' ' ∉ e.code.toList := fun hmem => absurd (he.code ' ' hmem) (by decide)
    have hnames : ∀ arg ∈ e.extras.toList, '=' ∉ arg.1.toList := by
      intro arg harg hmem
      have hkey : arg.1 ∈ e.extras.keys := by
        rw [← Std.ExtTreeMap.map_fst_toList_eq_keys]
        exact List.mem_map_of_mem harg
      exact (he.names arg.1 hkey '=' hmem).2 rfl
    obtain ⟨hhead, hread⟩ := read_pairs_join e.extras.toList hnames
    have hword := read_word_append hcode hhead hread
    rw [← String.toList_append, String.ofList_toList, String.ofList_toList] at hword
    rw [parse, fmt, hword]
    exact congrArg (fun extras => some (e.code, extras)) (ofList_toList e.extras)
  refine ⟨hparse e he, fun other hother hfmt => ?_⟩
  have hsame := hparse other hother
  rw [hfmt, hparse e he] at hsame
  obtain ⟨hcode, hextras⟩ := Prod.mk.inj (Option.some.inj hsame)
  exact ⟨hcode.symm, hextras.symm⟩

/-- A shelf short of what was asked for, with a comment that reads like an arg. -/
def short_stock : CodedError :=
  .coded "SHORT_STOCK" [("sku", "A-1"), ("comment", "last \"box\" =1"), ("bin", "")]
    .FailedPrecondition

example : short_stock.fmt = "SHORT_STOCK bin=\"\" comment=\"last \\\"box\\\" =1\" sku=A-1" := by
  decide +kernel

theorem short_stock_plain : short_stock.Plain := by
  have hcode : (short_stock.code.toList.all fun c => !is_whitespace c) = true := by decide
  have hnames : ∀ name ∈ ["sku", "comment", "bin"],
      (name.toList.all fun c => !is_whitespace c && c != '=') = true := by decide
  refine ⟨fun c hc => by simpa using List.all_eq_true.mp hcode c hc, fun name hname c hc => ?_⟩
  have hmem : name ∈ ["sku", "comment", "bin"] := by
    simpa [short_stock, CodedError.coded] using hname
  simpa using List.all_eq_true.mp (hnames name hmem) c hc

theorem CodedError.parse_fmt_short_stock :
    parse short_stock.fmt = some ("SHORT_STOCK", short_stock.extras) ∧
      ∀ other : CodedError, other.Plain → other.fmt = short_stock.fmt →
        other.code = "SHORT_STOCK" ∧ other.extras = short_stock.extras :=
  CodedError.parse_fmt short_stock short_stock_plain

end angzarr_router.error
