import Mathlib.Data.List.Induction
import Mathlib.Order.Nat
import PhoneSignIn.Flow.ErrorBudget

/-!
A budget in closed form. The error that ends a budget is the first fatal one, or the one after the limit
(`ErrorBudget.Ends`). Where a budget stands is told by the number of errors that it was charged with and the number of
the one that ends it (`ErrorBudget.standing`): one error more leads from one standing to the next (`charge_standing`),
and so any errors lead there from a fresh budget (`chargeAll_standing`).
-/
namespace PhoneSignIn.Flow.ErrorBudget

/-- Charge a budget with errors, one after another. -/
def chargeAll (b : ErrorBudget) (es : List CallError) : ErrorBudget := es.foldl (fun b e => (b.charge e).2) b

theorem chargeAll_concat (b : ErrorBudget) (es : List CallError) (e : CallError) :
    b.chargeAll (es ++ [e]) = ((b.chargeAll es).charge e).2 := by
  simp [chargeAll]

/-- The errors that can end a budget, numbered from one: a fatal one, and the one after the limit. -/
inductive Ends (limit : UInt64) (es : List CallError) : Nat → Prop where
  | fatal {before e after} (split : es = before ++ e :: after) (severe : e.isFatal = true) :
    Ends limit es (before.length + 1)
  | excess : Ends limit es (limit.toNat + 1)

variable {limit : UInt64} {es before after : List CallError} {e : CallError} {k n : Nat}

theorem Ends.pos (ends : Ends limit es k) : 0 < k := by
  cases ends <;> omega

theorem Ends.severe (ends : Ends limit es (before.length + 1)) (split : es = before ++ e :: after) :
    e.isFatal = true ∨ limit.toNat = before.length := by
  generalize number : before.length + 1 = k at ends
  cases ends with
  | @fatal earlier e' later split' severe =>
    obtain ⟨-,same⟩ := List.append_inj (split.symm.trans split') (by omega)
    obtain ⟨rfl,-⟩ := List.cons.inj same
    exact .inl severe
  | excess => exact .inr (by omega)

/-- The first error that ends a budget. It may be past the last error that there is. -/
theorem exists_first (limit : UInt64) (es : List CallError) : ∃ k, IsLeast {j | Ends limit es j} k := by
  classical exact ⟨_,Nat.isLeast_find ⟨_,.excess⟩⟩

/-- The verdict on an error, by the number of the one that ends the budget. -/
def verdictOn (k i : Nat) : Verdict := if i < k then .tell else if i = k then .giveUp else .ignore

/-- Where a budget stands after so many errors, by the number of the one that ends it. -/
def standing (limit : UInt64) (k n : Nat) : ErrorBudget :=
  { limit, count := .ofNat (min n k), spent := decide (k ≤ n) }

theorem count_standing (fits : min n k < UInt64.size) : (standing limit k n).count.toNat = min n k :=
  UInt64.toNat_ofNat_of_lt' fits

theorem hasErrors_standing (pos : 0 < k) (fits : min n k < UInt64.size) :
    (standing limit k n).hasErrors = true ↔ 0 < n := by
  simp only [hasErrors,decide_eq_true_eq,UInt64.lt_iff_toNat_lt,count_standing fits,UInt64.toNat_zero]
  omega

/-- A budget that has not ended yet ends with an error that is fatal or one too many, and with no other. -/
theorem ends_iff (first : IsLeast {j | Ends limit es j} k) (split : es = before ++ e :: after)
    (early : before.length < k) : e.isFatal = true ∨ limit.toNat < before.length + 1 ↔ before.length + 1 = k := by
  constructor
  · rintro (severe | exceeded)
    · have : k ≤ before.length + 1 := first.2 (.fatal split severe)
      omega
    · have : k ≤ limit.toNat + 1 := first.2 .excess
      omega
  · rintro rfl
    rcases first.1.severe split with severe | last
    · exact .inl severe
    · exact .inr (by omega)

/-- One error more leads from one standing to the next. -/
theorem charge_standing (first : IsLeast {j | Ends limit es j} k) (split : es = before ++ e :: after)
    (fits : min (before.length + 1) k < UInt64.size) :
    (standing limit k before.length).charge e =
      (verdictOn k (before.length + 1),standing limit k (before.length + 1)) := by
  by_cases late : k ≤ before.length
  · have same : min (before.length + 1) k = min before.length k := by omega
    have later : k ≤ before.length + 1 := by omega
    rw [charge,if_pos (by simpa [standing] using late),verdictOn,if_neg (by omega),if_neg (by omega),standing,standing,
      same,decide_eq_true late,decide_eq_true later]
  · have counted : min before.length k = before.length ∧ min (before.length + 1) k = before.length + 1 := by omega
    have one : UInt64.ofNat before.length + 1 = .ofNat (before.length + 1) := (UInt64.ofNat_add _ _).symm
    have ends : e.isFatal = true ∨ limit < UInt64.ofNat before.length + 1 ↔ before.length + 1 = k := by
      rw [one,UInt64.lt_iff_toNat_lt,UInt64.toNat_ofNat_of_lt' (by omega),ends_iff first split (by omega)]
    by_cases now : before.length + 1 = k
    · simp [charge,standing,verdictOn,ends.mpr now,← now]
    · have early : before.length + 1 < k ∧ ¬ k ≤ before.length + 1 := by omega
      simp [charge,standing,verdictOn,counted,late,mt ends.mp now,early]

/-- Errors lead a fresh budget to where they leave it. -/
theorem chargeAll_standing (first : IsLeast {j | Ends limit es j} k) (fits : min es.length k < UInt64.size)
    (split : es = before ++ after) : chargeAll { limit } before = standing limit k before.length := by
  induction before using List.reverseRecOn generalizing after with
  | nil =>
    have pos : 0 < k := first.1.pos
    simp [chargeAll,standing]
    omega
  | append_singleton before e ih =>
    have split' : es = before ++ e :: after := by simpa using split
    have length := congrArg List.length split'
    simp only [List.length_append,List.length_cons] at length
    rw [chargeAll_concat,ih split',charge_standing first split' (by omega),List.length_append,List.length_singleton]

/-- A budget in closed form. The first error that ends it makes the step give up, every error before it is told and
    every error after it ignored; the errors are counted up to that one, and the budget is spent if and only if that
    one was met. No count is too large for the counter where fewer than `2 ^ 64` errors are counted, as they are in
    every list of fewer errors and, below the largest limit, in every list. -/
theorem closed_form (limit : UInt64) (es : List CallError) :
    ∃ k, IsLeast {j | Ends limit es j} k ∧ (min es.length k < UInt64.size →
      (∀ before e after, es = before ++ e :: after →
        ((chargeAll { limit } before).charge e).1 = verdictOn k (before.length + 1) ∧
          ((chargeAll { limit } before).hasErrors = true ↔ 1 < before.length + 1) ∧
          ((chargeAll { limit } before).spent = false →
            (chargeAll { limit } before).count.toNat + 1 < UInt64.size)) ∧
        (chargeAll { limit } es).count.toNat = min es.length k ∧
        ((chargeAll { limit } es).spent = true ↔ k ≤ es.length)) := by
  obtain ⟨k,first⟩ := exists_first limit es
  refine ⟨k,first,fun fits => ⟨?_,?_⟩⟩
  · intro before e after split
    have length := congrArg List.length split
    simp only [List.length_append,List.length_cons] at length
    rw [chargeAll_standing first fits split]
    refine ⟨?_,?_,?_⟩
    · rw [charge_standing first split (by omega)]
    · rw [hasErrors_standing first.1.pos (by omega)]
      omega
    · intro unspent
      have early : ¬ k ≤ before.length := by simpa [standing] using unspent
      rw [count_standing (by omega)]
      omega
  · rw [chargeAll_standing first fits (List.append_nil es).symm]
    exact ⟨count_standing fits,by simp [standing]⟩

/-- Under the largest limit, the fatal second error ends a budget. -/
theorem closed_form_largest :
    ∃ k, IsLeast {j | Ends 18446744073709551615 [.unreachable "",.fatal "",.unreachable ""] j} k ∧ k = 2 ∧
      ∀ before e after, [.unreachable "",.fatal "",.unreachable ""] = before ++ e :: after →
        ((chargeAll { limit := 18446744073709551615 } before).charge e).1 = verdictOn k (before.length + 1) := by
  obtain ⟨k,first,form⟩ := closed_form 18446744073709551615 [.unreachable "",.fatal "",.unreachable ""]
  have fits : min 3 k < UInt64.size := lt_of_le_of_lt (Nat.min_le_left 3 k) (by decide)
  obtain ⟨verdicts,count,spent⟩ := form fits
  have met : k ≤ 3 := spent.mp (by decide)
  have second : min 3 k = 2 := count.symm.trans (by decide)
  exact ⟨k,first,by omega,fun before e after split => (verdicts before e after split).1⟩

end PhoneSignIn.Flow.ErrorBudget
