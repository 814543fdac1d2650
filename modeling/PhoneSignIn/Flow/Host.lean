import PhoneSignIn.Flow.SignIn

/-!
A host that embeds the flow and is told, instruction by instruction, what it and its user do. It keeps what a host has
to keep: the receiver of the sign-in, the handoff that it has to open next, the steps it has open, and the last failure.
Its session store can be made to fail at will.
-/
namespace PhoneSignIn.Flow

abbrev Slot := Int

structure Host (γ : Type) where
  world : World γ (FaultyStore MemoryStore)
  /-- The number of the last host to come; the world tells whether it is still there. -/
  lastHost : HostId
  receiver : Option ReceiverId := none
  pending : Option (Step × Handoff) := none
  /-- The open steps, the last opened first. -/
  steps : List (Slot × OpenStep) := []
  givenUp : Option FailureHandoff := none
  failure : Option FailureScreen := none

inductive Instruction where
  | start (phoneNumber : Option String) (wantsEmail : Bool)
  /-- Another host takes the place of the present one. -/
  | newHost
  | dropHost
  /-- Open a step from the given or the pending handoff; `direct` leaves the check to the step. -/
  | openStep (step : Option Step) (handoff : Option Handoff) (slot : Slot) (direct : Bool)
  | submit (slot : Slot) (input : String)
  | resend (slot : Slot)
  | phoneResend (slot : Slot)
  | chooseCountry (slot : Slot) (countryCode : UInt32)
  | edited (slot : Slot)
  | clearError (slot : Slot)
  | resume (slot : Slot)
  | handIn (code : Int32) (data : LoginResult)
  | reportSuccess (phoneNumber : String)
  | reportFailure (reason : CallError)
  | callbackSuccess (session : Session) (phoneNumber : String)
  | callbackFailure (message : String)
  | withdraw
  | inspect
  | openFailure (reason : Option CallError)
  | resumeFailure
  | dismiss
  | restart
  | signOut
  | activeSession
  /-- Put a session into the store, whether or not the store is at fault. -/
  | setSession (session : Session)
  | faults (read write clear : Option StorageError)
  | verify (session : Option Session)
  | unknown

inductive Refusal where
  | noController
  | notPhone
  | noReceiver
  | noFailure
  | noHandoff
  | noSession
  | unknown
deriving DecidableEq, Repr

def Refusal.label : Refusal → String
  | .noController => "no_controller"
  | .notPhone => "not_phone"
  | .noReceiver => "no_receiver"
  | .noFailure => "no_failure"
  | .noHandoff => "no_bundle"
  | .noSession => "no_session"
  | .unknown => "bad_step"

inductive Reply where
  | nothing
  | done
  | launched (h : Handoff)
  | already (session : Session)
  | opened (step : Step)
  | moved (t : Move)
  | receiver (r : Receiver) (alive : Bool)
  | reason (e : CallError)
  | session (s : Option Session)
  | setupError (e : SetupError)
  | openingError (e : OpeningError)
  | storageError (e : StorageError)
  | refused (r : Refusal)

namespace Host

variable {γ : Type}

/-- The stored session, whether or not the store is at fault. -/
def active (h : Host γ) : Option Session := h.world.store.store.active

def step? (h : Host γ) (slot : Slot) : Option OpenStep := h.steps.lookup slot

def setStep (h : Host γ) (slot : Slot) (s : OpenStep) : Host γ :=
  { h with steps := (slot,s) :: h.steps.filter (·.1 ≠ slot) }

def perform (h : Host γ) (act : Operation γ (FaultyStore MemoryStore) α) : α × Host γ :=
  let (a,world) := act.run h.world
  (a,{ h with world })

def follow (h : Host γ) : Move → Host γ
  | .next step handoff => { h with pending := some (step,handoff) }
  | .gaveUp failure => { h with givenUp := some failure }
  | .stay | .signedIn => h

def onStep (h : Host γ) (slot : Slot) (act : OpenStep → Reply × Host γ) : Reply × Host γ :=
  match h.step? slot with
  | some s => act s
  | none => (.refused .noController,h)

def onPhone (h : Host γ) (slot : Slot) (act : PhoneStep → Operation γ (FaultyStore MemoryStore) PhoneStep) :
    Reply × Host γ :=
  h.onStep slot fun
    | .phone s =>
      let (s,h) := h.perform (act s)
      (.nothing,h.setStep slot (.phone s))
    | _ => (.refused .notPhone,h)

def onReceiver (h : Host γ) (act : ReceiverId → Receiver → Operation γ (FaultyStore MemoryStore) Unit) :
    Reply × Host γ :=
  match h.receiver.bind fun id => (h.world.receivers[id]?).map (id,·) with
  | none => (.refused .noReceiver,h)
  | some (id,r) =>
    let ((),h) := h.perform (act id r)
    let r := (h.world.receivers[id]?).getD r
    (.receiver r (h.world.canTell r.callback),h)

def onFailure (h : Host γ) (act : FailureScreen → Reply × Host γ) : Reply × Host γ :=
  match h.failure with
  | some s => act s
  | none => (.refused .noFailure,h)

def start (h : Host γ) (phoneNumber : Option String) (wantsEmail : Bool) : Reply × Host γ :=
  match SignInDraft.complete { host := h.world.host, phoneNumber, wantsEmail } with
  | .error e => (.setupError e,h)
  | .ok config =>
    match h.perform (startSignIn config) with
    | (.error e,h) => (.openingError e,h)
    | (.ok (.signedIn session),h) => (.already session,h)
    | (.ok (.launch handoff),h) =>
      (.launched handoff,{ h with receiver := handoff.receiver, pending := some (.phoneNumber,handoff) })

def openStep (h : Host γ) (step : Option Step) (handoff : Option Handoff) (slot : Slot) (direct : Bool) :
    Reply × Host γ :=
  match handoff <|> h.pending.map (·.2) with
  | none => (.refused .noHandoff,h)
  | some handoff =>
    let step := (step <|> h.pending.map (·.1)).getD .phoneNumber
    let opened := if direct then OpenStep.ofHandoff h.world.settings step handoff
      else OpenStep.openFrom h.world.settings step handoff
    match opened with
    | .ok s => (.opened s.step,h.setStep slot s)
    | .error e => (.openingError e,h)

def follows [Gateway γ] (h : Host γ) : Instruction → Reply × Host γ
  | .start phoneNumber wantsEmail => h.start phoneNumber wantsEmail
  | .newHost =>
    let host := h.lastHost + 1
    (.nothing,{ h with lastHost := host, world.host := some host })
  | .dropHost => (.nothing,{ h with world.host := none })
  | .openStep step handoff slot direct => h.openStep step handoff slot direct
  | .submit slot input => h.onStep slot fun s =>
    let ((t,s),h) := h.perform (s.submit input)
    (.moved t,(h.setStep slot s).follow t)
  | .resend slot => h.onStep slot fun s =>
    match h.perform s.resend with
    | ((some t,s),h) => (.moved t,(h.setStep slot s).follow t)
    | ((none,s),h) => (.nothing,h.setStep slot s)
  | .phoneResend slot => h.onPhone slot fun s => return s.resend
  | .chooseCountry slot countryCode => h.onPhone slot (·.chooseCountry countryCode)
  | .edited slot => h.onStep slot fun s => (.nothing,h.setStep slot s.edited)
  | .clearError slot => h.onStep slot fun s => (.nothing,h.setStep slot s.clearError)
  | .resume slot => h.onStep slot fun s => (.nothing,(h.perform s.resume).2)
  | .handIn code data => h.onReceiver fun id _ => Flow.handIn id code data
  | .reportSuccess phoneNumber => h.onReceiver fun id _ => Flow.reportSuccess id phoneNumber
  | .reportFailure reason => h.onReceiver fun id _ => Flow.reportFailure id reason
  | .callbackSuccess session phoneNumber => h.onReceiver fun _ r => r.callback.tellSuccess session phoneNumber
  | .callbackFailure message => h.onReceiver fun _ r => r.callback.tellFailure message
  | .withdraw => h.onReceiver fun id _ => Flow.withdraw id
  | .inspect => h.onReceiver fun _ _ => return ()
  | .openFailure reason =>
    let failure := match reason with
      | none => h.givenUp
      | some reason => h.receiver.map fun receiver => { receiver, reason }
    match failure with
    | some failure => (.reason failure.reason,{ h with failure := some { failure } })
    | none => (.refused .noFailure,h)
  | .resumeFailure => h.onFailure fun s => (.nothing,(h.perform s.resume).2)
  | .dismiss => h.onFailure fun s => (.nothing,(h.perform s.dismiss).2)
  | .restart => h.onFailure fun s =>
    let (handoff,h) := h.perform s.restart
    (.launched handoff,{ h with pending := some (.phoneNumber,handoff) })
  | .signOut =>
    match h.perform Flow.signOut with
    | (.ok (),h) => (.done,h)
    | (.error e,h) => (.storageError e,h)
  | .activeSession =>
    match h.perform readSession with
    | (.ok s,h) => (.session s,h)
    | (.error e,h) => (.storageError e,h)
  | .setSession session => (.done,{ h with world.store.store.active := some session })
  | .faults readFault writeFault clearFault =>
    (.nothing,{ h with world.store := { store := h.world.store.store, readFault, writeFault, clearFault } })
  | .verify session =>
    match session <|> h.active with
    | none => (.refused .noSession,h)
    | some session =>
      let (s,h) := h.perform (refreshSession session)
      (.session s,h)
  | .unknown => (.refused .unknown,h)

def step [Gateway γ] (h : Host γ) (i : Instruction) : (Reply × List Occurrence) × Host γ :=
  let (reply,h) := { h with world.history := [] }.follows i
  ((reply,h.world.history),h)

end Host

end PhoneSignIn.Flow
