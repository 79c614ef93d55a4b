import AngzarrRouter.Declared
import AngzarrRouter.Rebuild.Failures
import AngzarrRouter.Text.Named

open calls
open text

namespace angzarr_router.error

section

variable [AngzarrProto]

/-- The names under which a failing fold says where it failed. -/
def ReasonArgs.of_fold (args : ReasonArgs) : List String :=
  [args.SEQUENCE, args.TYPE_URL, args.FIRST_SEQUENCE, args.LAST_SEQUENCE, args.STATE_TYPE_URL]

/-- A failing fold's own names are five, none of them `cause` or under it. These
are the names `reasons.proto` declares. -/
structure AngzarrProto.DeclaresArgs : Prop where
  distinct : reason_args.of_fold.Nodup
  not_cause : ∀ name ∈ reason_args.of_fold, name ≠ reason_args.CAUSE
  not_under : ∀ name ∈ reason_args.of_fold, ∀ arg, name ≠ reason_args.CAUSE ++ "." ++ arg

/-- `extras` show `cause`: its key as the cause, its args under it, and nothing
else under it. -/
structure HoldsCause (extras : Table String) (cause : pb.Diagnostic) : Prop where
  code : extras[AngzarrProto.reason_args.CAUSE]? = some cause.code
  args : KeepsUnder (AngzarrProto.reason_args.CAUSE ++ ".") extras cause.args

/-- The args of a failing fold, but for its cause. -/
def fold_args (place : FoldAt) (state_type_url : String) : List (String × String) :=
  (match place with
    | .Page sequence type_url =>
      [(AngzarrProto.reason_args.SEQUENCE, toString sequence),
        (AngzarrProto.reason_args.TYPE_URL, type_url)]
    | .Range first last =>
      [(AngzarrProto.reason_args.FIRST_SEQUENCE, toString first),
        (AngzarrProto.reason_args.LAST_SEQUENCE, toString last)]) ++
    [(AngzarrProto.reason_args.STATE_TYPE_URL, state_type_url)]

/-- The error made of a cause: a bug of it, retryable or not, the bug a fact's
answer is rewritten to, or a fold that failed with it. -/
inductive Wraps : CodedError → pb.Diagnostic → Prop where
  | bug (code : String) (details : List (String × String)) :
      Wraps (.bug code details) { code, args := .ofList details }
  | retryable_bug (status : RetryableStatus) (code : String) (details : List (String × String)) :
      Wraps (.retryable_bug status code details) { code, args := .ofList details }
  | as_fact_failure (error : CodedError)
      (hrewritten : error.grpc = .Aborted ∨ (BusinessStatus.try_from error.grpc).isOk = true ∨
        error.refusal.isSome = true) :
      Wraps error.as_fact_failure error.diagnostic
  | fold_failed (reason : AngzarrReason) (place : FoldAt) (state_type_url : String)
      (cause : pb.Diagnostic) :
      Wraps (.fold_failed reason place state_type_url (some cause)) cause

/-- A cause wrapped by an error, that error wrapped in its turn, `depth` times
over the first. -/
inductive Nested : Nat → CodedError → pb.Diagnostic → Prop where
  | wraps {error : CodedError} {cause : pb.Diagnostic} (h : Wraps error cause) :
      Nested 0 error cause
  | deeper {depth : Nat} {error inner : CodedError} {cause : pb.Diagnostic}
      (h : Wraps error inner.diagnostic) (hinner : Nested depth inner cause) :
      Nested (depth + 1) error cause

/-- Args hold one cause. -/
theorem HoldsCause.unique {extras : Table String} {cause cause' : pb.Diagnostic}
    (h : HoldsCause extras cause) (h' : HoldsCause extras cause') : cause = cause' := by
  have hcode : cause.code = cause'.code := Option.some.inj (h.code.symm.trans h'.code)
  have hargs : cause.args = cause'.args := h.args.unique h'.args
  cases cause
  cases cause'
  simp_all

omit [AngzarrProto] in
/-- A name is not one of those under it. -/
theorem ne_under (name arg : String) : name ≠ name ++ "." ++ arg := by
  intro heq
  have hlength := congrArg (fun text => text.toList.length) heq
  simp at hlength

/-- A flattened cause shows beside any args not named like its own. -/
theorem holds_cause_flatten (own : List (String × String)) (code : String)
    (args : List (String × String))
    (hunder : ∀ arg, AngzarrProto.reason_args.CAUSE ++ "." ++ arg ∉ own.map Prod.fst) :
    HoldsCause (.ofList (own ++ flatten AngzarrProto.reason_args.CAUSE code args))
      { code, args := .ofList args } := by
  have hflatten : own ++ flatten AngzarrProto.reason_args.CAUSE code args =
      (own ++ [(AngzarrProto.reason_args.CAUSE, code)]) ++ args.map fun arg =>
        (AngzarrProto.reason_args.CAUSE ++ "." ++ arg.1, arg.2) := by
    rw [List.append_assoc]
    rfl
  rw [hflatten]
  constructor
  · rw [getElem?_ofList_append_left, ofList_concat, Std.ExtTreeMap.getElem?_insert_self]
    intro hmem
    obtain ⟨_, hentry, heq⟩ := List.mem_map.mp hmem
    obtain ⟨⟨arg, value⟩, _, rfl⟩ := List.mem_map.mp hentry
    exact ne_under _ arg heq.symm
  · refine keeps_under_ofList _ args fun arg hmem => ?_
    rw [List.map_append, List.mem_append] at hmem
    obtain hmem | hmem := hmem
    · exact hunder arg hmem
    · exact ne_under _ arg (List.mem_singleton.mp hmem).symm

/-- A failed fold's args are its own, and then its cause's. -/
theorem fold_failed_extras (reason : AngzarrReason) (place : FoldAt) (state_type_url : String)
    (cause : Option pb.Diagnostic) :
    (CodedError.fold_failed reason place state_type_url cause).extras =
      .ofList (fold_args place state_type_url ++ cause.elim [] fun cause =>
        flatten AngzarrProto.reason_args.CAUSE cause.code cause.args.toList) := by
  cases cause with
  | none => rw [Option.elim_none, List.append_nil]; rfl
  | some cause => rfl

/-- Its own are among the declared ones, in order. -/
theorem fold_args_sublist (place : FoldAt) (state_type_url : String) :
    ((fold_args place state_type_url).map Prod.fst).Sublist
      (AngzarrProto.reason_args.of_fold) := by
  cases place with
  | Page sequence type_url =>
    exact .cons_cons _ (.cons_cons _ (.cons _ (.cons _ (.cons_cons _ .slnil))))
  | Range first last =>
    exact .cons _ (.cons _ (.cons_cons _ (.cons_cons _ (.cons_cons _ .slnil))))

section

variable (hargs : AngzarrProto.DeclaresArgs)
include hargs

/-- None of them is named as a cause is. -/
theorem cause_not_mem_fold_args (place : FoldAt) (state_type_url : String) :
    AngzarrProto.reason_args.CAUSE ∉ (fold_args place state_type_url).map Prod.fst := fun hmem =>
  hargs.not_cause _ ((fold_args_sublist place state_type_url).subset hmem) rfl

/-- None of them is named as a cause's arg is. -/
theorem under_not_mem_fold_args (place : FoldAt) (state_type_url arg : String) :
    AngzarrProto.reason_args.CAUSE ++ "." ++ arg ∉
      (fold_args place state_type_url).map Prod.fst := fun hmem =>
  hargs.not_under _ ((fold_args_sublist place state_type_url).subset hmem) arg rfl

/-- What wraps a cause shows it. -/
theorem Wraps.holds_cause {error : CodedError} {cause : pb.Diagnostic} (h : Wraps error cause) :
    HoldsCause error.extras cause := by
  cases h with
  | bug code details => exact holds_cause_flatten [] code details fun _ => List.not_mem_nil
  | retryable_bug status code details =>
    exact holds_cause_flatten [] code details fun _ => List.not_mem_nil
  | as_fact_failure inner hrewritten =>
    have hstatus : (decide (inner.grpc = .Aborted) || (BusinessStatus.try_from inner.grpc).isOk ||
        inner.refusal.isSome) = true := by
      simpa [or_assoc] using hrewritten
    have hbug : inner.as_fact_failure = .bug inner.code inner.extras.toList := by
      rw [CodedError.as_fact_failure, hstatus]
      rfl
    have hcause := holds_cause_flatten [] inner.code inner.extras.toList
      fun _ => List.not_mem_nil
    rw [ofList_toList] at hcause
    rw [hbug]
    exact hcause
  | fold_failed reason place state_type_url cause =>
    have hcause := holds_cause_flatten _ cause.code cause.args.toList
      (under_not_mem_fold_args hargs place state_type_url)
    rw [ofList_toList] at hcause
    rw [fold_failed_extras]
    exact hcause

/-- A fold that failed with no cause shows none. -/
theorem fold_failed_none (reason : AngzarrReason) (place : FoldAt) (state_type_url : String) :
    (CodedError.fold_failed reason place state_type_url none).extras[
      AngzarrProto.reason_args.CAUSE]? = none := by
  rw [fold_failed_extras, Option.elim_none, List.append_nil]
  refine Std.ExtTreeMap.getElem?_ofList_of_contains_eq_false ?_
  simpa using cause_not_mem_fold_args hargs place state_type_url

/-- The cause leaves the args of the fold as they are. -/
theorem fold_failed_own (reason : AngzarrReason) (place : FoldAt) (state_type_url : String)
    (cause : Option pb.Diagnostic) {name value : String}
    (harg : (name, value) ∈ fold_args place state_type_url) :
    (CodedError.fold_failed reason place state_type_url cause).extras[name]? = some value := by
  have hsublist := fold_args_sublist place state_type_url
  have hname : name ∈ AngzarrProto.reason_args.of_fold :=
    hsublist.subset (List.mem_map_of_mem (f := Prod.fst) harg)
  rw [fold_failed_extras, getElem?_ofList_append_left]
  · refine Std.ExtTreeMap.getElem?_ofList_of_mem (by simp) ?_ harg
    refine (List.pairwise_map.mp (hsublist.nodup hargs.distinct)).imp fun hne heq => ?_
    exact hne (Std.LawfulEqCmp.eq_of_compare heq)
  · cases cause with
    | none => exact List.not_mem_nil
    | some cause =>
      intro hmem
      simp only [Option.elim_some, flatten, List.map_cons, List.map_map, List.mem_cons,
        List.mem_map] at hmem
      obtain rfl | ⟨⟨arg, value⟩, _, rfl⟩ := hmem
      · exact hargs.not_cause _ hname rfl
      · exact hargs.not_under _ hname arg rfl

/-- However deep a cause is wrapped, the args of the outermost error tell it. -/
theorem Nested.unique {depth : Nat} {error error' : CodedError} {cause cause' : pb.Diagnostic}
    (h : Nested depth error cause) (h' : Nested depth error' cause')
    (hsame : error.extras = error'.extras) : cause = cause' := by
  induction h generalizing error' with
  | wraps hwraps =>
    cases h' with
    | wraps hwraps' =>
      exact (hwraps.holds_cause hargs).unique (hsame ▸ hwraps'.holds_cause hargs)
  | deeper hwraps _ ih =>
    cases h' with
    | deeper hwraps' hinner' =>
      have hinner := (hwraps.holds_cause hargs).unique (hsame ▸ hwraps'.holds_cause hargs)
      exact ih hinner' (congrArg pb.Diagnostic.args hinner)

end

/-- An applier's own coded failure is what its fold's failure wraps. -/
theorem wraps_applier_failure {S : Type} {thunk : rebuild.ApplierFn S} {state : S} {event : Any}
    {ctx : PageContext} {inner : CodedError}
    (hfails : (thunk state event ctx).2 = .err (.Coded inner)) (origin : rebuild.PageOrigin)
    (page : pb.EventPage) (state_type_url : String) :
    ∃ cause, (rebuild.run_applier thunk state event ctx).2 = .err cause ∧
      Wraps (rebuild.page_fold_error origin page state_type_url cause) inner.diagnostic := by
  refine ⟨some inner.diagnostic, ?_, ?_⟩
  · unfold rebuild.run_applier
    generalize thunk state event ctx = ran at hfails ⊢
    obtain ⟨state, call⟩ := ran
    cases hfails
    rfl
  · obtain ⟨place, hplace⟩ := rebuild.page_fold_error_eq_fold_failed origin page state_type_url
      (some inner.diagnostic)
    rw [hplace]
    exact .fold_failed ..

/-- A wrapped failure shows whole in the args of its wrapper, beside the
wrapper's own, at every depth of wrapping. -/
theorem wrapping_loses_nothing (hargs : AngzarrProto.DeclaresArgs) :
    (∀ error cause, Wraps error cause → HoldsCause error.extras cause) ∧
      (∀ depth error error' cause cause', Nested depth error cause → Nested depth error' cause' →
        error.extras = error'.extras → cause = cause') ∧
      (∀ reason reason' place place' state_type_url state_type_url' cause cause',
        (CodedError.fold_failed reason place state_type_url cause).extras =
          (CodedError.fold_failed reason' place' state_type_url' cause').extras →
        cause = cause') ∧
      (∀ reason place state_type_url cause, ∀ arg ∈ fold_args place state_type_url,
        (CodedError.fold_failed reason place state_type_url cause).extras[arg.1]? = some arg.2) ∧
      (∀ (S : Type) (thunk : rebuild.ApplierFn S) state event ctx inner,
        (thunk state event ctx).2 = .err (.Coded inner) → ∀ origin page state_type_url,
        ∃ cause, (rebuild.run_applier thunk state event ctx).2 = .err cause ∧
          Wraps (rebuild.page_fold_error origin page state_type_url cause) inner.diagnostic) := by
  refine ⟨fun _ _ h => h.holds_cause hargs, fun _ _ _ _ _ h h' => h.unique hargs h', ?_,
    fun reason place url cause arg harg => fold_failed_own hargs reason place url cause harg,
    fun _ _ _ _ _ _ hfails => wraps_applier_failure hfails⟩
  intro reason reason' place place' url url' cause cause' hsame
  cases cause with
  | none =>
    cases cause' with
    | none => rfl
    | some cause' =>
      have hholds := (Wraps.fold_failed reason' place' url' cause').holds_cause hargs
      rw [← hsame] at hholds
      exact absurd (hholds.code.symm.trans (fold_failed_none hargs reason place url)) nofun
  | some cause =>
    have hholds := (Wraps.fold_failed reason place url cause).holds_cause hargs
    cases cause' with
    | none =>
      rw [hsame] at hholds
      exact absurd (hholds.code.symm.trans (fold_failed_none hargs reason' place' url')) nofun
    | some cause' =>
      have hholds' := (Wraps.fold_failed reason' place' url' cause').holds_cause hargs
      exact congrArg some (hholds.unique (hsame ▸ hholds'))

end

namespace declared

theorem declares_args : AngzarrProto.DeclaresArgs := by
  have hapart : ∀ name ∈ reason_args.of_fold, ¬ "cause.".toList <+: name.toList := by decide
  refine ⟨by decide, by decide, fun name hname arg heq => hapart name hname ?_⟩
  rw [heq]
  exact ⟨arg.toList, by simp [AngzarrProto.reason_args, reason_args]⟩

/-- An applier's bug, its args named like those of the fold it fails. -/
def overdrawn : CodedError := .bug "OVERDRAWN" [("sequence", "9"), ("cause", "fee"), ("", "x")]

def fee_folded : CodedError :=
  .fold_failed .FoldFailed (.Page 7 "type.googleapis.com/Fee") "type.googleapis.com/Account"
    (some overdrawn.diagnostic)

/-- The failed fold as a handler relays it. -/
def fee_relayed : CodedError :=
  .retryable_bug .Unavailable fee_folded.code fee_folded.extras.toList

theorem fee_relayed_nested : Nested 2 fee_relayed
    { code := "OVERDRAWN", args := .ofList [("sequence", "9"), ("cause", "fee"), ("", "x")] } := by
  have hrelayed := Wraps.retryable_bug .Unavailable fee_folded.code fee_folded.extras.toList
  rw [ofList_toList] at hrelayed
  have hfolded : Wraps fee_folded overdrawn.diagnostic := .fold_failed ..
  exact .deeper (hrelayed : Wraps fee_relayed fee_folded.diagnostic) (.deeper hfolded (.wraps (.bug ..)))

theorem wrapping_loses_nothing_fee :
    (∀ cause, Nested 2 fee_relayed cause → cause =
      { code := "OVERDRAWN"
        args := .ofList [("sequence", "9"), ("cause", "fee"), ("", "x")] }) ∧
      fee_folded.extras["sequence"]? = some "7" :=
  have hkept := wrapping_loses_nothing declares_args
  ⟨fun _ h => hkept.2.1 2 _ _ _ _ h fee_relayed_nested rfl,
    hkept.2.2.2.1 .FoldFailed (.Page 7 "type.googleapis.com/Fee") _ (some overdrawn.diagnostic)
      ("sequence", "7") (by decide)⟩

end declared

end angzarr_router.error
