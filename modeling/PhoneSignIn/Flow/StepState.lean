import PhoneSignIn.Flow.ErrorBudget
import PhoneSignIn.Flow.Handoff
import PhoneSignIn.Flow.Receiver

/-!
What all steps have in common: the receiver of the outcome, the error budget, the view, and the ways in which a step
goes on or ends. A step is closed once it has handed over or given up.
-/
namespace PhoneSignIn.Flow

variable {γ σ : Type}

structure StepState where
  step : Step
  receiver : ReceiverId
  budget : ErrorBudget
  view : Display := {}
  /-- Whether the step has handed over to the next one or signed the user in. -/
  handedOver : Bool := false
deriving DecidableEq, Repr, Inhabited

def Step.component : Step → Journal.Component
  | .phoneNumber => .phoneNumber
  | .loginCode => .loginCode
  | .confirmationCode => .confirmationCode
  | .pinCode => .pinCode
  | .email => .email
  | .failure => .failure

namespace StepState

def new (settings : Settings) (step : Step) (receiver : ReceiverId) : StepState where
  step
  receiver
  budget := { limit := settings.maxErrors }

/-- A closed step does nothing when it is asked to go on. -/
def isClosed (c : StepState) : Bool := c.handedOver || c.budget.spent

def record (c : StepState) (action : Journal.Action) : Operation γ σ Unit := Flow.record c.step.component action

def recordAttempt (c : StepState) : Operation γ σ Unit :=
  c.record (.click (if c.budget.hasErrors then .retry else .submit))

/-! ## What the step shows -/

def withActivity (c : StepState) (activity : Activity) : StepState := { c with view.activity := activity }

def showError (c : StepState) (message : String) : StepState := { c with view.message := some message }

def clearError (c : StepState) : StepState := { c with view.message := none }

def showWorking (c : StepState) : StepState := c.clearError.withActivity .progress

/-- The step when the user comes back to it; one that has given up stays closed. -/
def reenter (c : StepState) : StepState :=
  if c.budget.spent then c else { c with handedOver := false }.withActivity .start

/-! ## How a step goes on -/

/-- Show an error, or give up when the budget is spent. -/
def report (c : StepState) (e : CallError) : Operation γ σ (Move × StepState) := do
  let (verdict,budget) := c.budget.charge e
  let c := { c with budget }
  match verdict with
  | .tell =>
    c.record (.ofError e)
    return (.stay,(c.showError (c.step.messages.message e)).withActivity .error)
  | .giveUp =>
    c.record .failure
    return (.gaveUp { receiver := c.receiver, reason := e },c)
  | .ignore => return (.stay,c)

def finish (c : StepState) : StepState := { c with handedOver := true }.withActivity .finish

def handOver (c : StepState) (step : Step) (h : Handoff) : Move × StepState := (.next step h,c.finish)

def toEmail (c : StepState) (phoneNumber : String) : Move × StepState :=
  c.handOver .email { receiver := c.receiver, phoneNumber, wantsEmail := true }

def signIn [SessionStore σ] (c : StepState) (session : Session) (phoneNumber : String) :
    Operation γ σ (Move × StepState) := do
  match ← writeSession session with
  | .error e => c.report (.ofStorage e)
  | .ok () =>
    reportSuccess c.receiver phoneNumber
    return (.signedIn,c.finish)

def requestEmail [SessionStore σ] (c : StepState) (session : Session) (phoneNumber : String) :
    Operation γ σ (Move × StepState) := do
  match ← writeSession session with
  | .error e => c.report (.ofStorage e)
  | .ok () => return c.toEmail phoneNumber

/-- Fetch the account of a session; ask for an email address when the same user's account has none, else the user is
    signed in. -/
def signInOrRequestEmail [Gateway γ] [SessionStore σ] (c : StepState) (session : Session) (phoneNumber : String) :
    Operation γ σ (Move × StepState) := do
  match ← ask (.verifyAccount session) with
  | .error e => c.report e
  | .ok account =>
    let refreshed := Session.ofAccount account
    if refreshed.email.isNone && refreshed.id == session.id then c.requestEmail refreshed phoneNumber
    else c.signIn refreshed phoneNumber

def goBack (c : StepState) (h : Handoff) : Operation γ σ (Move × StepState) := do
  if c.isClosed then return (.stay,c)
  c.record (.click .resend)
  return c.handOver .phoneNumber h

end StepState

end PhoneSignIn.Flow
