import PhoneSignIn.Console.Dialogue
import PhoneSignIn.Proofs.Flow.Provenance

/-!
One exchange at the terminal. What is shown never matters: an interaction `Does` at the terminal what its
operations do in the world. A question carries the receiver of the sign-in that it belongs to, and every answer
leads to another question with that receiver, or ends the dialogue in one of three ways (`Answered`,
`answer_answered`); a handoff that comes up on the way always opens (`enter_does`).
-/
namespace PhoneSignIn.Flow

variable {γ σ : Type}

/-! ### How many calls a submit makes -/

theorem Course.few_calls [SessionStore σ] {text : String} {st st' : σ} {s s' : OpenStep} {l : List Occurrence}
    {fin : Finale} (course : Course text st s s' l st' fin) : (l.filterMap Occurrence.call?).length ≤ 2 := by
  have signsIn {session n wantsEmail l fin} (goesOn : SignsIn session n wantsEmail l fin) :
      (l.filterMap Occurrence.call?).length ≤ 1 := by
    cases goesOn <;> simp
  cases course with
  | phone sends => cases sends <;> simp [List.filterMap_cons]
  | loginCode checks =>
    cases checks with
    | taken c full goesOn => simpa [List.filterMap_cons] using signsIn goesOn
    | _ => simp [List.filterMap_cons]
  | confirmationCode checks => cases checks <;> simp [List.filterMap_cons]
  | pinCode checks =>
    cases checks with
    | taken c goesOn => simpa [List.filterMap_cons] using signsIn goesOn
    | _ => simp [List.filterMap_cons]
  | email attaches => cases attaches <;> simp [List.filterMap_cons]

theorem Submits.few_calls [SessionStore σ] {s s' : OpenStep} {input : String} {w w' : World γ σ} {m : Move}
    (submits : Submits s input w m s' w') :
    ∃ l, w'.history = w.history ++ l ∧ (l.filterMap Occurrence.call?).length ≤ 2 := by
  cases submits with
  | ignored => exact ⟨[],by simp⟩
  | @went s' l g st fin m c' w' accepted course ends =>
    obtain ⟨rest,history,quiet⟩ := ends.uncalled
    refine ⟨l ++ rest,by rw [history,World.advance_history,List.append_assoc],?_⟩
    rw [List.filterMap_append,List.filterMap_eq_nil_iff.mpr quiet,List.append_nil]
    exact course.few_calls

end PhoneSignIn.Flow

namespace PhoneSignIn.Console
open PhoneSignIn.Flow

variable {γ σ α β : Type}

/-! ### What is shown -/

/-- What an interaction answers and the world that it leaves, whatever it shows. -/
def Does (x : Interaction γ σ α) (t : Terminal γ σ) (a : α) (w : World γ σ) : Prop :=
  ∃ shown, x.run t = (a,⟨w,shown⟩)

namespace Does
variable {t : Terminal γ σ} {w w' : World γ σ} {a : α} {b : β}

theorem pure (t : Terminal γ σ) (a : α) : Does (Pure.pure a : Interaction γ σ α) t a t.world := ⟨_,rfl⟩

theorem get (t : Terminal γ σ) : Does (MonadState.get : Interaction γ σ (Terminal γ σ)) t t t.world := ⟨_,rfl⟩

/-- Interactions one after the other. -/
theorem bind {x : Interaction γ σ α} {f : α → Interaction γ σ β} (first : Does x t a w)
    (second : ∀ shown, Does (f a) ⟨w,shown⟩ b w') : Does (x >>= f) t b w' := by
  obtain ⟨shown,ran⟩ := first
  obtain ⟨shown',ran'⟩ := second shown
  refine ⟨shown',?_⟩
  rw [StateT.run_bind,ran]
  exact ran'

/-- What is said of what comes second is said of both together. -/
theorem andThen {x : Interaction γ σ α} {f : α → Interaction γ σ β} {P : β → World γ σ → Prop} (first : Does x t a w)
    (second : ∀ shown, ∃ b w', Does (f a) ⟨w,shown⟩ b w' ∧ P b w') : ∃ b w', Does (x >>= f) t b w' ∧ P b w' := by
  obtain ⟨shown,ran⟩ := first
  obtain ⟨b,w',⟨shown',ran'⟩,p⟩ := second shown
  refine ⟨b,w',⟨shown',?_⟩,p⟩
  rw [StateT.run_bind,ran]
  exact ran'

theorem printLine (s : String) (t : Terminal γ σ) : Does (Console.printLine s) t () t.world := ⟨_,rfl⟩
theorem prompt (label : String) (t : Terminal γ σ) : Does (Console.prompt label) t () t.world := ⟨_,rfl⟩

theorem printLines (lines : List String) (t : Terminal γ σ) :
    Does (forIn lines PUnit.unit fun line _ => do Console.printLine line; return ForInStep.yield PUnit.unit)
      t PUnit.unit t.world := by
  induction lines generalizing t with
  | nil => exact pure t _
  | cons line lines ih =>
    rw [List.forIn_cons]
    exact bind (bind (printLine line t) fun _ => pure _ _) fun _ => ih _

/-- An operation of the flow does at the terminal what it does in the world. -/
theorem act (operation : Operation γ σ α) (t : Terminal γ σ) :
    Does (Console.act operation) t (operation.run t.world).1 (operation.run t.world).2 := by
  obtain ⟨shown,ran⟩ := printLines
    (((operation.run t.world).2.history.drop t.world.history.length).filterMap outcomeLine?)
    { t with world := (operation.run t.world).2 }
  exact ⟨shown,congrArg (Prod.map (fun _ => (operation.run t.world).1) id) ran⟩

end Does

/-! ### Questions -/

/-- Who is told when the dialogue ends after a question. -/
def Question.receiver : Question → ReceiverId
  | .country s => s.core.receiver
  | .entry s => s.core.receiver
  | .retry screen => screen.failure.receiver

theorem askEntry_does (s : OpenStep) (t : Terminal γ σ) : Does (askEntry s) t (.ask (.entry s)) t.world :=
  .bind (.prompt _ t) fun _ => .pure _ _

theorem showEntry_does (s : OpenStep) (t : Terminal γ σ) : Does (showEntry s) t (.ask (.entry s)) t.world := by
  rw [showEntry]
  split
  · exact .bind (.printLine _ t) fun _ => askEntry_does s _
  · exact askEntry_does s t

/-- A step that opens comes into view, and something is asked for it: the country or the entry. -/
theorem enter_does {kind : Step} {h : Handoff} {r : ReceiverId} (opens : h.Opens kind r) (t : Terminal γ σ) :
    ∃ q w, Does (enter kind h) t (.ask q) w ∧ t.world.Records w ∧ q.receiver = r := by
  obtain ⟨-,opens⟩ := opens
  obtain ⟨o,opened,-,receiver⟩ := opens t.world.settings
  have resumed : t.world.Records (o.resume.run t.world).2 := .one t.world o.core.step.component_ne _
  cases o with
  | phone p =>
    refine ⟨.country p,_,.bind (.get t) fun _ => ?_,resumed,receiver⟩
    rw [opened]
    refine .bind (.act (OpenStep.phone p).resume _) fun shown => ?_
    have asks (t : Terminal γ σ) : Does (do
        prompt ("Country code [" ++ Text.Decimal.ofNat p.countryCode.toNat ++ "]")
        return Progress.ask (.country p)) t (.ask (.country p)) t.world := .bind (.prompt _ t) fun _ => .pure _ _
    simp only
    split
    · exact .bind (.printLine _ _) fun _ => asks _
    · exact asks _
  | loginCode _ | confirmationCode _ | pinCode _ | email _ =>
    refine ⟨.entry _,_,.bind (.get t) fun _ => ?_,resumed,receiver⟩
    rw [opened]
    exact .bind (.act (OpenStep.resume _) _) fun _ => showEntry_does _ _

/-- A move that does not sign the user in leads to another question for the same host, where what it hands over
    opens. -/
theorem follow_does {s : OpenStep} {m : Move} {r : ReceiverId} (unsigned : m ≠ .signedIn) (same : s.core.receiver = r)
    (opens : ∀ kind h, m = .next kind h → h.Opens kind r) (gaveUp : ∀ f, m = .gaveUp f → f.receiver = r)
    (t : Terminal γ σ) : ∃ q w, Does (follow s m) t (.ask q) w ∧ t.world.Records w ∧ q.receiver = r := by
  cases m with
  | stay =>
    refine ⟨.entry s,t.world,?_,.nothing t.world,same⟩
    rw [follow]
    split
    · exact .bind (.printLine _ t) fun _ => askEntry_does s _
    · exact askEntry_does s t
  | next kind h => exact enter_does (opens kind h rfl) t
  | signedIn => exact absurd rfl unsigned
  | gaveUp f =>
    exact ⟨.retry ⟨f⟩,_,
      .bind (.act _ t) fun _ => .bind (.printLine _ _) fun _ => .bind (.prompt _ _) fun _ => .pure _ _,
      .one t.world (by decide) _,gaveUp f rfl⟩

/-! ### What comes of an answer -/

/-- A world on which no host was told of an outcome, and at most `n` calls were made. -/
def Settles (n : Nat) (w w' : World γ σ) : Prop :=
  ∃ l g st, (∀ o ∈ l, o.outcome? = none) ∧ (l.filterMap Occurrence.call?).length ≤ n ∧ w' = w.advance g st l

theorem Settles.records {n : Nat} {w w' w'' : World γ σ} (settles : Settles n w w') (records : w'.Records w'') :
    Settles n w w'' := by
  obtain ⟨l,g,st,unsaid,few,rfl⟩ := settles
  obtain ⟨l',noted,rfl⟩ := records
  have uncalled : ∀ o ∈ l', o.call? = none := fun o member => by
    cases noted o member
    rfl
  refine ⟨l ++ l',g,st,?_,?_,by rw [World.advance_advance]; rfl⟩
  · intro o member
    rcases List.mem_append.mp member with first | second
    · exact unsaid o first
    · exact (noted o second).plain.tells_none
  · rw [List.filterMap_append,List.filterMap_eq_nil_iff.mpr uncalled,List.append_nil]
    exact few

theorem Settles.of_records {w w' : World γ σ} (n : Nat) (records : w.Records w') : Settles n w w' :=
  Settles.records ⟨[],w.gateway,w.store,by simp,by simp,by simp⟩ records

theorem Settles.of_submits [SessionStore σ] {s s' : OpenStep} {input : String} {w w' : World γ σ} {m : Move}
    (submits : Submits s input w m s' w') (unsigned : m ≠ .signedIn) : Settles 2 w w' := by
  rcases submits.silent_or_signedIn with ⟨-,l,g,st,quiet,rfl⟩ | ⟨signedIn,-⟩
  · obtain ⟨l',history,few⟩ := submits.few_calls
    obtain rfl : l = l' := by simpa using history
    exact ⟨l,g,st,fun o member => (quiet o member).1,few,rfl⟩
  · exact absurd signedIn unsigned

/-- What comes of an answer while no host has been told: -/
inductive Answered [Gateway γ] [SessionStore σ] (q : Question) (line : Option String) (w : World γ σ) :
    Progress → World γ σ → Prop where
  /-- another question, for the same host, after two calls at most when there is a line, and without one else; -/
  | asks {q' w'} (same : q'.receiver = q.receiver) (settles : Settles (if line.isSome then 2 else 0) w w')
    (closing : line = none → (∃ s, q = .country s) ∧ ∃ s, q' = .entry s) : Answered q line w (.ask q') w'
  /-- the end, because the user is signed in; -/
  | signedIn {s text s' w'} (entry : q = .entry s) (sent : line = some text)
    (ran : (s.submit text).run w = ((.signedIn,s'),w')) (submits : Submits s text w .signedIn s' w') :
    Answered q line w .done w'
  /-- the end, because the user tries no other number, and the host is told why; -/
  | dismissed {screen w₁ w'} (retry : q = .retry screen) (no : line.any isYes = false) (clicked : w.Records w₁)
    (arrives : Arrives w₁ screen.failure.receiver failureCode
      { loginError := some screen.failure.reason.explanation } w') : Answered q line w .done w'
  /-- or the end of the input. -/
  | ended {s} (entry : q = .entry s) (spent : line = none) : Answered q line w .done w

section
variable [Gateway γ] [SessionStore σ]

/-- The code is sent again from another step, or nothing changes. -/
theorem resend_answered (s : OpenStep) (line : String) (t : Terminal γ σ) :
    ∃ p w, Does (do match ← act s.resend with
        | (some t,s) => follow s t
        | (none,s) => askEntry s) t p w ∧ Answered (.entry s) (some line) t.world p w := by
  have acted := Does.act s.resend t
  have settles : Settles 2 t.world (s.resend.run t.world).2 := .of_records 2 (s.resend_records t.world)
  have same := (s.resend_becomes t.world).receiver
  have moves := fun m => OpenStep.resend_hands (s := s) (w := t.world) (m := m)
  generalize s.resend.run t.world = answer at acted settles same moves
  obtain ⟨⟨m,s'⟩,w'⟩ := answer
  refine acted.andThen fun shown => ?_
  cases m with
  | none => exact ⟨_,_,askEntry_does s' _,.asks same settles nofun⟩
  | some m =>
    have asks {m : Move} (unsigned : m ≠ .signedIn) (opens : ∀ kind h, m = .next kind h → h.Opens kind s.core.receiver)
        (gaveUp : ∀ f, m = .gaveUp f → f.receiver = s.core.receiver) :
        ∃ p w, Does (follow s' m) ⟨w',shown⟩ p w ∧ Answered (.entry s) (some line) t.world p w := by
      obtain ⟨q,w,does,records,receiver⟩ := follow_does unsigned same opens gaveUp ⟨w',shown⟩
      exact ⟨_,w,does,.asks receiver (settles.records records) nofun⟩
    rcases moves m rfl with rfl | ⟨h,rfl,-,carried,fits⟩
    · exact asks (by simp) (by simp) (by simp)
    · refine asks (by simp) ?_ (by simp)
      rintro kind h' next
      cases next
      exact fits.opens carried

theorem answerEntry_answered (s : OpenStep) (line : String) (t : Terminal γ σ) :
    ∃ p w, Does (answerEntry s line) t p w ∧ Answered (.entry s) (some line) t.world p w := by
  have still : Settles 2 t.world t.world := .of_records 2 (.nothing t.world)
  by_cases voice : Text.trim line = "/voice"
  · cases s with
    | phone p =>
      have receiver : p.resend.core.receiver = p.core.receiver := p.resend_becomes.receiver
      refine ⟨.ask (.entry (.phone p.resend)),_,?_,.asks receiver still nofun⟩
      simp only [answerEntry,voice,if_true]
      split
      · exact .bind (.printLine _ t) fun _ => askEntry_does _ _
      · exact askEntry_does _ t
    | _ =>
      simp only [answerEntry,voice,if_true]
      exact ⟨_,_,askEntry_does _ t,.asks rfl still nofun⟩
  · by_cases resend : Text.trim line = "/resend"
    · simp only [answerEntry,resend,if_true]
      exact resend_answered s line t
    · obtain ⟨m,s',w',submits,ran⟩ := submits s line t.world
      have acted := Does.act (s.submit line) t
      rw [ran] at acted
      simp only [answerEntry,voice,resend,if_false]
      refine acted.andThen fun shown => ?_
      by_cases signedIn : m = .signedIn
      · subst signedIn
        exact ⟨_,_,.pure _ _,.signedIn rfl rfl ran submits⟩
      · have settles := Settles.of_submits submits signedIn
        obtain ⟨q,w,does,records,receiver⟩ := follow_does signedIn submits.becomes.receiver
          (by rintro kind h rfl; exact submits.hands.fits.opens submits.hands.receiver)
          (by rintro f rfl; exact submits.gaveUp_cause.1) ⟨w',shown⟩
        exact ⟨_,w,does,.asks receiver (settles.records records) nofun⟩

theorem answer_answered (q : Question) (line : Option String) (t : Terminal γ σ) :
    ∃ p w, Does (answer q line) t p w ∧ Answered q line t.world p w := by
  cases q with
  | country s =>
    have closing (p : PhoneStep) : line = none →
        (∃ c, Question.country s = .country c) ∧ ∃ o, Question.entry (.phone p) = .entry o := fun _ => ⟨⟨s,rfl⟩,_,rfl⟩
    simp only [answer]
    cases line.bind countryCode? with
    | none => exact ⟨_,_,showEntry_does _ t,.asks rfl (.of_records _ (.nothing _)) (closing s)⟩
    | some code =>
      exact ⟨_,_,.bind (.act _ t) fun _ => showEntry_does _ _,
        .asks rfl (.of_records _ (.one t.world s.core.step.component_ne _)) (closing _)⟩
  | entry s =>
    cases line with
    | none => exact ⟨_,_,.pure _ _,.ended rfl rfl⟩
    | some line => exact answerEntry_answered s line t
  | retry screen =>
    simp only [answer]
    by_cases yes : line.any isYes = true
    · -- The end of the input says no.
      obtain ⟨text,rfl⟩ : ∃ text, line = some text := by
        cases line with
        | none => cases yes
        | some text => exact ⟨text,rfl⟩
      rw [if_pos yes]
      refine (Does.act _ t).andThen fun shown => ?_
      have restarted : t.world.Records (screen.restart.run t.world).2 := .one t.world (by decide) _
      have carried : (screen.restart.run t.world).1.receiver = some screen.failure.receiver := rfl
      obtain ⟨q,w,does,records,receiver⟩ := enter_does ((Handoff.fits_phone carried).opens carried)
        (⟨(screen.restart.run t.world).2,shown⟩ : Terminal γ σ)
      exact ⟨_,w,does,.asks receiver ((Settles.of_records 2 restarted).records records) nofun⟩
    · rw [if_neg yes]
      refine ⟨_,_,.bind (.act _ t) fun _ => .pure _ _,.dismissed rfl (by simpa using yes) ?_ (handIn_arrives _ _ _ _)⟩
      exact .one t.world (by decide) _

end

end PhoneSignIn.Console
