import PhoneSignIn.Proofs.Flow.Provenance
import PhoneSignIn.Proofs.Flow.Response

/-!
Where a step takes from whether it may call and whether it asks for an email address. A step keeps what it was
opened with (`Opened.Faithful`), and what a turn offers was made by a beginning, by a new start after a failure, by
a code step that goes back, or by a submit (`Turn.Offers`). So what a step goes by is traced from offer to offer,
each made in fewer turns than the one before.
-/
namespace PhoneSignIn.Flow

variable {γ σ : Type}

/-! ### What a step was opened with -/

/-- Whether a step has what it was opened with: the receiver, and what code steps say of email and calls. -/
structure Opened.Faithful (o : Opened) : Prop where
  receiver : o.handoff.receiver = some o.step.core.receiver
  wish : ∀ b ∈ o.step.wantsEmail?, o.handoff.wantsEmail = b
  offer : ∀ b ∈ o.step.offersVoice?, o.handoff.features.any (·.voiceEnabled) = b

theorem OpenStep.Becomes.wishes {s s' : OpenStep} (becomes : s.Becomes s') :
    s'.wantsEmail? = s.wantsEmail? ∧ s'.offersVoice? = s.offersVoice? := by
  cases becomes with
  | phone _ wish => exact ⟨congrArg some wish,rfl⟩
  | changed s => cases s <;> exact ⟨rfl,rfl⟩

/-- What a code step hands to the phone step is what it was opened with. -/
theorem OpenStep.handoffBack_eq {o : OpenStep} {h : Handoff} (back : o.handoffBack? = some h) :
    h.receiver = some o.core.receiver ∧ h.resend = true ∧ o.wantsEmail? = some h.wantsEmail ∧
      o.offersVoice? = some h.voiceEnabled := by
  cases o with
  | loginCode => cases back; exact ⟨rfl,rfl,rfl,rfl⟩
  | confirmationCode => cases back; exact ⟨rfl,rfl,rfl,rfl⟩
  | _ => cases back

section
variable [Gateway γ] [SessionStore σ]

theorem turn_faithful {s : Scene γ σ} (faithful : ∀ o ∈ s.steps, o.Faithful) (act : Act) :
    ∀ o ∈ (s.turn act).after.steps, o.Faithful := by
  intro x member
  rcases (s.still.does_changes act).member member with ⟨kind,-,valid⟩ | ⟨o,before,handoff,becomes⟩
  · have begins := OpenStep.openFrom_begins valid
    exact ⟨(OpenStep.openFrom_keeps valid).1,begins.wish,begins.offer⟩
  · obtain ⟨receiver,wish,offer⟩ := faithful o before
    obtain ⟨wishes,offers⟩ := becomes.wishes
    exact ⟨by rw [handoff,becomes.receiver,receiver],by rw [handoff,wishes]; exact wish,
      by rw [handoff,offers]; exact offer⟩

theorem Scene.run_faithful {s : Scene γ σ} (fresh : s.steps = []) {acts : List Act} {t : Turn γ σ}
    (member : t ∈ s.run acts) : ∀ o ∈ t.before.steps, o.Faithful := by
  obtain ⟨earlier,later,split⟩ := List.append_of_mem member
  exact run_always (I := fun _ s => ∀ o ∈ s.steps, o.Faithful) (fun _ _ act faithful => turn_faithful faithful act)
    (by simp [fresh]) split

end

/-! ### What a turn offers -/

/-- Whether the service starts a login or registers a number in a turn, with these features. -/
def Turn.Grants (t : Turn γ σ) (f : Features) : Prop :=
  (∃ number channel r, .asked (.authenticateDevice number channel) (.ok r) ∈ t.happened ∧ r.features = some f) ∨
    ∃ number channel r, .asked (.registerDevice number channel) (.ok r) ∈ t.happened ∧ r.features = some f

/-- What a turn offers to open. -/
inductive Turn.Offers (t : Turn γ σ) : Step → Handoff → Prop where
  | launched {config r} (act : t.act = .start config) :
    Offers t .phoneNumber { receiver := some r, phoneNumber := config.phoneNumber, wantsEmail := config.wantsEmail }
  | restarted {i r} (act : t.act = .restart i) : Offers t .phoneNumber { receiver := some r }
  | wentBack {i p h} (act : t.act = .resend i) (found : t.before.steps[i]? = some p)
    (back : p.step.handoffBack? = some h) : Offers t .phoneNumber h
  | handed {i input p kind h} (act : t.act = .submit i input) (found : t.before.steps[i]? = some p)
    (hands : p.step.Hands (Text.trim input) t.happened kind h) : Offers t kind h

/-- A phone step hands over the features that the service grants, and asks for an address if these let it. -/
theorem OpenStep.Hands.granted {p : PhoneStep} {t : Turn γ σ} {text : String} {kind : Step} {h : Handoff}
    (hands : (OpenStep.phone p).Hands text t.happened kind h) : (kind = .loginCode ∨ kind = .confirmationCode) ∧
      (∀ f, h.features = some f → t.Grants f) ∧ h.wantsEmail = p.asksEmail h.features := by
  cases hands with
  | loginStarted phone asked =>
    cases phone
    exact ⟨.inl rfl,fun f features => .inl ⟨_,_,_,asked,features⟩,rfl⟩
  | registered phone asked =>
    cases phone
    exact ⟨.inr rfl,fun f features => .inr ⟨_,_,_,asked,features⟩,rfl⟩
  | pinWanted code => cases code
  | addressWanted code => rcases code with code | code | code <;> cases code

theorem OpenStep.Hands.phone {s : OpenStep} {text : String} {l : List Occurrence} {kind : Step} {h : Handoff}
    (hands : s.Hands text l kind h) (code : kind = .loginCode ∨ kind = .confirmationCode) : ∃ p, s = .phone p := by
  cases hands with
  | loginStarted phone => exact ⟨_,phone⟩
  | registered phone => exact ⟨_,phone⟩
  | pinWanted => rcases code with code | code <;> cases code
  | addressWanted => rcases code with code | code <;> cases code

theorem OpenStep.resend_moves {o : OpenStep} {w : World γ σ} {kind : Step} {h : Handoff}
    (moved : (o.resend.run w).1.1 = some (.next kind h)) : kind = .phoneNumber ∧ o.handoffBack? = some h := by
  rw [resend_run] at moved
  split at moved
  · cases moved
  · rename_i back
    split at moved
    · cases moved
    · cases moved
      exact ⟨rfl,back⟩

theorem StepOffer.before_sub {past : List (Turn γ σ)} {kind : Step} {h : Handoff} (o : StepOffer past kind h)
    {t : Turn γ σ} (member : t ∈ o.before) : t ∈ past :=
  (congrArg (t ∈ ·) o.split).mpr (List.mem_append_left _ member)

theorem StepOpening.before_sub {past : List (Turn γ σ)} {i : Nat} {kind : Step} {h : Handoff}
    (o : StepOpening past i kind h) {t : Turn γ σ} (member : t ∈ o.earlier) : t ∈ past :=
  (congrArg (t ∈ ·) o.split).mpr (List.mem_append_left _ member)

section
variable [Gateway γ] [SessionStore σ] {s : Scene γ σ} {acts : List Act} {past : List (Turn γ σ)}

/-- What a turn has offered was made in one of four ways. -/
theorem StepOffer.offered {kind : Step} {h : Handoff} (o : StepOffer past kind h)
    (sub : ∀ t ∈ past, t ∈ s.run acts) : o.offer.Offers kind h := by
  have offers := o.offers
  have replies := Scene.run_replies (sub _ o.offer_mem)
  generalize o.offer = t at *
  generalize answer : t.reply = reply at replies offers
  generalize doing : t.act = act at replies
  generalize world : t.after.world = w' at replies
  cases replies with
  | nothing none =>
    rw [none] at offers
    cases offers
  | refused => cases offers
  | began begins =>
    cases offers
    cases begins with
    | launched => exact .launched doing
  | @submitted i input p m step _ found submits =>
    cases m <;> cases offers
    exact .handed doing found (by rw [Turn.happened,world]; exact submits.hands)
  | @resent i p m _ found moved =>
    cases m <;> cases offers
    obtain ⟨rfl,back⟩ := OpenStep.resend_moves moved
    exact .wentBack doing found back
  | restarted =>
    cases offers
    exact .restarted doing

end

end PhoneSignIn.Flow
