import AngzarrRouter.Calls.Outcome
import Mathlib.Data.List.Forall2

open calls Outcome

namespace calls

variable {ε α β : Type}

/-- `items.iter().map(call).collect::<Result<Vec<_>, _>>()`: each item's answer,
in order, up to the first that has none. -/
def collect (call : α → Outcome ε β) : List α → Outcome ε (List β)
  | [] => .ok []
  | item :: rest => do
    let answer ← call item
    let answers ← collect call rest
    .ok (answer :: answers)

variable {call : α → Outcome ε β} {items : List α}

theorem collect_eq_ok_iff {answers : List β} :
    collect call items = .ok answers ↔
      List.Forall₂ (fun item answer => call item = .ok answer) items answers := by
  induction items generalizing answers with
  | nil => simp [collect, eq_comm]
  | cons item rest ih =>
    simp only [collect, bind_eq_ok_iff, Outcome.ok.injEq, List.forall₂_cons_left_iff]
    constructor
    · rintro ⟨answer, hanswer, answers, hanswers, rfl⟩
      exact ⟨answer, answers, hanswer, ih.mp hanswers, rfl⟩
    · rintro ⟨answer, answers, hanswer, hanswers, rfl⟩
      exact ⟨answer, hanswer, answers, ih.mpr hanswers, rfl⟩

/-- It fails as the first item that fails does. -/
theorem collect_eq_err_iff {error : ε} :
    collect call items = .err error ↔
      ∃ front item back, items = front ++ item :: back ∧
        (∀ earlier ∈ front, ∃ answer, call earlier = .ok answer) ∧ call item = .err error := by
  constructor
  · intro hcollect
    induction items with
    | nil => cases hcollect
    | cons item rest ih =>
      rw [collect, bind_eq_err_iff] at hcollect
      obtain herror | ⟨answer, hanswer, hrest⟩ := hcollect
      · exact ⟨[], item, rest, rfl, by simp, herror⟩
      · rw [bind_eq_err_iff] at hrest
        obtain herror | ⟨answers, _, hok⟩ := hrest
        · obtain ⟨front, failing, back, rfl, hfront, hfailing⟩ := ih herror
          refine ⟨item :: front, failing, back, rfl, ?_, hfailing⟩
          intro earlier hearlier
          obtain rfl | hlater := List.mem_cons.mp hearlier
          · exact ⟨answer, hanswer⟩
          · exact hfront earlier hlater
        · cases hok
  · rintro ⟨front, item, back, rfl, hfront, hitem⟩
    induction front with
    | nil => simp [collect, hitem]
    | cons earlier front ih =>
      obtain ⟨answer, hanswer⟩ := hfront earlier (List.mem_cons_self ..)
      have hrest := ih fun later hlater => hfront later (List.mem_cons_of_mem _ hlater)
      simp [collect, hanswer, hrest]

theorem collect_ne_panic (hcall : ∀ item, call item ≠ .panic) (items : List α) :
    collect call items ≠ .panic := by
  induction items with
  | nil => simp [collect]
  | cons item rest ih =>
    intro hpanic
    rw [collect, bind_eq_panic_iff] at hpanic
    obtain hitem | ⟨answer, _, hrest⟩ := hpanic
    · exact hcall item hitem
    · rw [bind_eq_panic_iff] at hrest
      obtain hrest | ⟨answers, _, hok⟩ := hrest
      · exact ih hrest
      · cases hok

end calls
