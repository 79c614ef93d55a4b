import AngzarrRouter.Archlint.Rules
import AngzarrRouter.Text.Blocks
import AngzarrRouter.Text.Bytes

open calls text

namespace archlint.rules

namespace bytes

/-- The source's `segment_match`, slicing its segment at byte offsets. -/
def segment_match (pattern seg : String) : Outcome Empty Bool :=
  match _hstar : split_once "*" pattern with
  | none => .ok (pattern = seg)
  | some (start, rest) =>
    match strip_prefix start seg with
    | none => .ok false
    | some after =>
      let offsets := (List.range (byte_len after.toList + 1)).filter (is_char_boundary · after.toList)
      any (fun i => slice_from i after.toList >>= fun tail => segment_match rest (.ofList tail)) offsets
termination_by pattern.toList.length
decreasing_by exact split_once_length (by decide) _hstar

/-- `&path[i..]`, of a slice: it unwinds past the end. -/
def slice (i : Nat) (path : List String) : Outcome Empty (List String) :=
  if i ≤ path.length then .ok (path.drop i) else .panic

def segments_match : List String → List String → Outcome Empty Bool
  | [], path => .ok path.isEmpty
  | seg :: rest, path =>
    if seg = "**" then
      any (fun i => slice i path >>= segments_match rest) (List.range (path.length + 1))
    else
      match path with
      | head :: tail => do
        let matched ← segment_match seg head
        if matched then segments_match rest tail else .ok false
      | [] => .ok false

def matches_path (pattern path : String) : Outcome Empty Bool :=
  match strip_prefix "path:" pattern, strip_prefix "path:" path with
  | some p, some q => segments_match (segments p "/") (segments q "/")
  | none, none => segments_match (segments pattern "::") (segments path "::")
  | _, _ => .ok false

/-- Slicing a segment by bytes never unwinds, and matches as its characters do. -/
theorem segment_match_eq (pattern seg : String) :
    segment_match pattern seg = .ok (rules.segment_match pattern seg) := by
  fun_induction rules.segment_match pattern seg with
  | case1 pattern seg hstar => rw [segment_match, hstar]
  | case2 pattern seg start rest hstar hstrip =>
    rw [segment_match, hstar]
    simp only [hstrip]
  | case3 pattern seg start rest hstar after hstrip ih =>
    rw [segment_match, hstar]
    simp only [hstrip]
    exact any_slice_from (fun tail => rules.segment_match rest (.ofList tail)) ih

/-- Nor does matching whole paths. -/
theorem segments_match_eq (pattern path : List String) :
    segments_match pattern path = .ok (rules.segments_match pattern path) := by
  induction pattern generalizing path with
  | nil => rfl
  | cons seg rest ih =>
    unfold segments_match rules.segments_match
    split
    · refine any_eq_ok fun i hi => ?_
      have hle : i ≤ path.length := Nat.lt_succ_iff.mp (List.mem_range.mp hi)
      rw [slice, if_pos hle, Outcome.ok_bind, ih]
    · cases path with
      | nil => rfl
      | cons head tail =>
        simp only [segment_match_eq, Outcome.ok_bind, ih]
        cases rules.segment_match seg head <;> rfl

/-- Every slice the matcher takes is within its text and at a letter. -/
theorem matches_path_eq (pattern path : String) :
    matches_path pattern path = .ok (rules.matches_path pattern path) := by
  rw [matches_path, rules.matches_path]
  cases strip_prefix "path:" pattern <;> cases strip_prefix "path:" path
  · exact segments_match_eq ..
  · rfl
  · rfl
  · exact segments_match_eq ..

end bytes

/-- What a character of a pattern stands for: `*` for any run of characters,
any other for itself. -/
def TakesRun (c : Char) (run : List Char) : Prop := c ≠ '*' → run = [c]

/-- `seg` is `pattern` with each `*` replaced by a run of characters. -/
def Fills (pattern seg : String) : Prop := Cuts TakesRun pattern.toList seg.toList

/-- What a segment of a pattern stands for: `**` for any number of segments,
any other for one that fills it. -/
def TakesSegments (seg : String) (block : List String) : Prop :=
  seg ≠ "**" → ∃ name, block = [name] ∧ Fills seg name

/-- The language of a pattern, as the rules file's syntax has it: on-disk
targets and module paths apart, each segment by segment. -/
inductive Accepts (pattern path : String) : Prop where
  | on_disk {p q : String} (hpattern : pattern = "path:" ++ p) (hpath : path = "path:" ++ q)
      (hcuts : Cuts TakesSegments (segments p "/") (segments q "/"))
  | in_modules (hpattern : ∀ p, pattern ≠ "path:" ++ p) (hpath : ∀ q, path ≠ "path:" ++ q)
      (hcuts : Cuts TakesSegments (segments pattern "::") (segments path "::"))

theorem takesRun_iff {c : Char} (hc : c ≠ '*') (run : List Char) : TakesRun c run ↔ run = [c] :=
  ⟨fun htakes => htakes hc, fun hrun _ => hrun⟩

/-- A pattern without a `*` is filled by itself alone. -/
theorem fills_plain {pattern : String} (hstar : split_once "*" pattern = none) (seg : String) :
    Fills pattern seg ↔ pattern = seg := by
  have hnone : '*' ∉ pattern.toList :=
    not_mem_of_split_first_eq_none (Option.map_eq_none_iff.mp hstar)
  have hself : ∀ c ∈ pattern.toList, ∀ run, TakesRun c run ↔ run = [c] :=
    fun c hc => takesRun_iff fun heq => hnone (heq ▸ hc)
  rw [Fills, cuts_self hself, String.toList_inj, eq_comm]

/-- What fills a pattern begins as it does before its first `*`, and then some
end of it fills what follows the `*`. -/
theorem fills_star {pattern start rest : String}
    (hstar : split_once "*" pattern = some (start, rest)) (seg : String) :
    Fills pattern seg ↔ ∃ after, strip_prefix start seg = some after ∧
      ∃ i < after.toList.length + 1, Fills rest (.ofList (after.toList.drop i)) := by
  obtain ⟨⟨before, behind⟩, hfirst, hsides⟩ := Option.map_eq_some_iff.mp hstar
  obtain ⟨rfl, rfl⟩ := Prod.mk.inj hsides
  have hbefore : '*' ∉ before := not_mem_of_split_first hfirst
  have hself : ∀ c ∈ before, ∀ run, TakesRun c run ↔ run = [c] :=
    fun c hc => takesRun_iff fun heq => hbefore (heq ▸ hc)
  have hany : ∀ run, TakesRun '*' run := fun _ hne => absurd rfl hne
  have hpattern : pattern.toList = before ++ '*' :: behind := by
    rw [split_first_eq_some hfirst, List.append_assoc]
    rfl
  simp only [Fills, hpattern, cuts_append_self hself, cuts_cons_any hany,
    strip_prefix_eq_some_iff, String.toList_ofList]
  constructor
  · rintro ⟨back, hback, hcuts⟩
    refine ⟨.ofList back, ?_, ?_⟩
    · rw [← String.toList_inj, hback, String.toList_append, String.toList_ofList,
        String.toList_ofList]
    · rw [String.toList_ofList]
      exact hcuts
  · rintro ⟨after, rfl, hcuts⟩
    exact ⟨after.toList, by rw [String.toList_append, String.toList_ofList], hcuts⟩

/-- A segment matches as it fills the pattern. -/
theorem segment_match_iff (pattern seg : String) :
    segment_match pattern seg = true ↔ Fills pattern seg := by
  fun_induction segment_match pattern seg with
  | case1 pattern seg hstar => rw [decide_eq_true_eq, fills_plain hstar]
  | case2 pattern seg start rest hstar hstrip => simp [fills_star hstar, hstrip]
  | case3 pattern seg start rest hstar after hstrip ih =>
    simp [fills_star hstar, hstrip, ih]

/-- A path matches as it can be cut along the pattern. -/
theorem segments_match_iff (pattern path : List String) :
    segments_match pattern path = true ↔ Cuts TakesSegments pattern path := by
  induction pattern generalizing path with
  | nil => rw [segments_match, List.isEmpty_iff, cuts_nil_iff]
  | cons seg rest ih =>
    unfold segments_match
    split
    case isTrue hany =>
      have htakes : ∀ block, TakesSegments seg block := fun _ hne => absurd hany hne
      simp [cuts_cons_any htakes, ih]
    case isFalse hone =>
      have htakes : ∀ block, TakesSegments seg block ↔ ∃ name, block = [name] ∧ Fills seg name :=
        fun block => ⟨fun htakes => htakes hone, fun hfills _ => hfills⟩
      rw [cuts_cons_one htakes]
      cases path with
      | nil => simp
      | cons head tail => simp [segment_match_iff, ih]

/-- A path matches a pattern where its blocks fill the pattern's segments, both
of them on disk or neither. -/
theorem matches_path_iff {pattern path : String} :
    matches_path pattern path = true ↔ Accepts pattern path := by
  have hnone : ∀ text, strip_prefix "path:" text = none ↔ ∀ rest, text ≠ "path:" ++ rest :=
    fun text => by simp only [Option.eq_none_iff_forall_ne_some, ne_eq, strip_prefix_eq_some_iff]
  constructor
  · intro hmatches
    unfold matches_path at hmatches
    split at hmatches
    · rename_i hp hq
      exact .on_disk (strip_prefix_eq_some_iff.mp hp) (strip_prefix_eq_some_iff.mp hq)
        ((segments_match_iff ..).mp hmatches)
    · rename_i hp hq
      exact .in_modules ((hnone _).mp hp) ((hnone _).mp hq) ((segments_match_iff ..).mp hmatches)
    · cases hmatches
  · intro haccepts
    cases haccepts with
    | on_disk hpattern hpath hcuts =>
      rw [matches_path, strip_prefix_eq_some_iff.mpr hpattern, strip_prefix_eq_some_iff.mpr hpath]
      exact (segments_match_iff ..).mpr hcuts
    | in_modules hpattern hpath hcuts =>
      rw [matches_path, (hnone _).mpr hpattern, (hnone _).mpr hpath]
      exact (segments_match_iff ..).mpr hcuts

/-- The matcher answers, without unwinding, and accepts exactly the documented
language. -/
theorem matches_path_iff_accepts (pattern path : String) :
    ∃ answer, bytes.matches_path pattern path = .ok answer ∧
      (answer = true ↔ Accepts pattern path) :=
  ⟨_, bytes.matches_path_eq pattern path, matches_path_iff⟩

end archlint.rules
