import PhoneSignIn.Gateway.Error

/-!
How many errors a step bears. Errors are shown until there are more than the budget allows or one cannot be recovered
from; then the step gives up, once.
-/
namespace PhoneSignIn.Flow

inductive Verdict where
  | tell
  | giveUp
  /-- Nothing: the step has given up before. -/
  | ignore
deriving DecidableEq, Repr, Inhabited

structure ErrorBudget where
  /-- How many errors are shown. -/
  limit : UInt64
  count : UInt64 := 0
  spent : Bool := false
deriving DecidableEq, Repr, Inhabited

namespace ErrorBudget

def hasErrors (b : ErrorBudget) : Bool := 0 < b.count

def charge (b : ErrorBudget) (e : CallError) : Verdict × ErrorBudget :=
  if b.spent then (.ignore,b)
  else
    let count := b.count + 1
    if e.isFatal || b.limit < count then (.giveUp,{ b with count, spent := true })
    else (.tell,{ b with count })

end ErrorBudget

end PhoneSignIn.Flow
