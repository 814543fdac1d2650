import PhoneSignIn.Proofs.Flow.Descent

/-!
What becomes of a number that a phone step suggests. The suggestion is the number that the step was opened with, and
it stays as it is (`OpenStep.Responds.suggested`). It comes from the host, or from a code step that leads back, which
suggests the number that it was opened for (`SuggestedBy`). A submit has a code sent to what the user enters after the
code of the country (`Submits.numbers`). So where a suggested international number is entered as it stands, the
country's code goes before a number that has one (`suggestion_prefixed`).
-/
namespace PhoneSignIn.Flow

variable {γ σ : Type}

/-! ### International numbers -/

/-- A number as the service takes it: a plus sign, and digits. -/
def International (n : String) : Prop :=
  n.toList.head? = some '+' ∧ n.toList.tail ≠ [] ∧ n.toList.tail.all Char.isDigit = true

instance (n : String) : Decidable (International n) := inferInstanceAs (Decidable (_ ∧ _ ∧ _))

namespace International
variable {n : String}

theorem chars (form : International n) : ∃ ds, n.toList = '+' :: ds ∧ ∀ c ∈ ds, c.isDigit = true := by
  obtain ⟨plus,-,digits⟩ := form
  obtain ⟨ds,text⟩ := List.head?_eq_some_iff.mp plus
  rw [text,List.tail_cons,List.all_eq_true] at digits
  exact ⟨ds,text,digits⟩

/-- There are no blanks in an international number. -/
theorem trim_eq (form : International n) : Text.trim n = n := by
  obtain ⟨ds,text,digits⟩ := form.chars
  refine Text.trim_of_kept ?_
  intro c member
  rw [text,List.mem_cons] at member
  rcases member with rfl | member
  · decide
  · exact Text.isBlank_of_isDigit (digits c member)

theorem nonempty (form : International n) : n ≠ "" := by
  rintro rfl
  exact absurd form.1 nofun

end International

theorem PhoneStep.fullNumber_toList (countryCode : UInt32) (n : String) : (fullNumber countryCode n).toList =
    '+' :: (Text.Decimal.ofNat countryCode.toNat).toList ++ n.toList := by
  simp [fullNumber,String.toList_append]

/-- After the code of a country, no number that has one is a number as the service takes it. -/
theorem PhoneStep.fullNumber_not_international {n : String} (form : International n) (countryCode : UInt32) :
    ¬ International (fullNumber countryCode n) := by
  obtain ⟨ds,text,-⟩ := form.chars
  rintro ⟨-,-,digits⟩
  have plus : '+' ∈ (fullNumber countryCode n).toList.tail := by
    rw [fullNumber_toList,text]
    exact List.mem_append_right _ List.mem_cons_self
  exact absurd (List.all_eq_true.mp digits '+' plus) (by decide)

/-! ### What a phone step suggests -/

/-- The number that a step suggests; a phone step may suggest one. -/
def OpenStep.suggested? : OpenStep → Option String
  | .phone p => p.suggested
  | _ => none

@[simp] theorem OpenStep.setCore_suggested (o : OpenStep) (core : StepState) :
    (o.setCore core).suggested? = o.suggested? := by
  cases o <;> rfl

theorem PhoneStep.askAgain_suggested (p : PhoneStep) : p.askAgain.suggested = p.suggested := by
  obtain ⟨_,_,asked⟩ := p.askAgain_keeps
  rw [asked]

theorem PhoneStep.Sends.suggested {p p' : PhoneStep} {channel : Channel} {l : List Occurrence} {fin : Finale}
    (sends : p.Sends channel p' l fin) : p'.suggested = p.suggested := by
  cases sends with
  | refused => rfl
  | carrierRefused => exact askAgain_suggested _
  | loginStarted r learnt => rw [learnt,learn]
  | registrationRefused => rfl
  | registered m r learnt => rw [learnt,learn]

section
variable [SessionStore σ] {w w' : World γ σ} {o o' : OpenStep}

theorem Submits.suggested {input : String} {m : Move} (submits : Submits o input w m o' w') :
    o'.suggested? = o.suggested? := by
  cases submits with
  | ignored rest same =>
    rcases same with rfl | rfl
    · rfl
    · exact o.setCore_suggested _
  | went accepted course ends =>
    rw [OpenStep.setCore_suggested]
    cases course with
    | phone sends => exact sends.suggested
    | _ => rfl

theorem OpenStep.edited_suggested (o : OpenStep) : o.edited.suggested? = o.suggested? := by
  cases o with
  | phone p =>
    simp only [edited,suggested?,PhoneStep.edited]
    split <;> rfl
  | _ => rfl

/-- Whatever is done on a step, it suggests what it did. -/
theorem OpenStep.Responds.suggested {act : Act} {reply : Reply} (responds : o.Responds w act reply o' w') :
    o'.suggested? = o.suggested? := by
  cases responds with
  | submitted submits => exact submits.suggested
  | wentBack => exact o.setCore_suggested _
  | stayed => rfl
  | noWayBack => rfl
  | phoneResent phone =>
    rw [phone]
    exact PhoneStep.askAgain_suggested _
  | countryChosen phone => rw [phone]; rfl
  | noPhone => rfl
  | edited => exact o.edited_suggested
  | cleared => exact o.setCore_suggested _
  | resumed => rfl

end

/-- What a step suggests is the number that it is opened with. -/
theorem OpenStep.openFrom_suggested {settings : Settings} {kind : Step} {h : Handoff} {o : OpenStep}
    (opens : OpenStep.openFrom settings kind h = .ok o) {n : String} (suggested : o.suggested? = some n) :
    h.phoneNumber = some n := by
  cases openFrom_iff.mp opens with
  | @phone r p receiver new =>
    have own : (if h.resend then p.askAgain else p).suggested = p.suggested := by
      split
      · exact p.askAgain_suggested
      · rfl
    have given : p.suggested = some n := own.symm.trans suggested
    rw [new] at given
    exact (Option.filter_eq_some_iff.mp given).1
  | loginCode => cases suggested
  | confirmationCode => cases suggested
  | pinCode => cases suggested
  | email => cases suggested

/-- Whether what a step suggests is the number that it was opened with. -/
def Opened.Suggests (o : Opened) : Prop := ∀ n, o.step.suggested? = some n → o.handoff.phoneNumber = some n

section
variable [Gateway γ] [SessionStore σ] {s : Scene γ σ} {acts : List Act} {earlier later : List (Turn γ σ)} {t : Turn γ σ}

theorem Scene.turn_suggests (own : ∀ (i : Nat) (o : Opened), s.steps[i]? = some o → o.Suggests) (act : Act) :
    ∀ (i : Nat) (o : Opened), (s.turn act).after.steps[i]? = some o → o.Suggests := by
  intro i x there n suggested
  cases s.still.does_evolves act there with
  | opened missing opens valid => exact OpenStep.openFrom_suggested valid suggested
  | left found => exact own i x found n suggested
  | responded found on responds =>
    rw [responds.suggested] at suggested
    exact own i _ found n suggested

theorem Scene.run_suggests (fresh : s.steps = []) (split : s.run acts = earlier ++ t :: later) {i : Nat} {o : Opened}
    (found : t.before.steps[i]? = some o) : o.Suggests :=
  run_always (I := fun _ s => ∀ (i : Nat) (o : Opened), s.steps[i]? = some o → o.Suggests)
    (fun _ _ act own => turn_suggests own act) (by simp [fresh]) split i o found

/-- Where a number that is suggested comes from: the host asked for a sign-in with it, or a code step led back to the
    phone step that was opened for it, the number that an earlier phone step had a code sent to. -/
inductive SuggestedBy (past : List (Turn γ σ)) (n : String) : Prop where
  | host {t config} (member : t ∈ past) (act : t.act = .start config) (number : config.phoneNumber = n)
  | codeStep {before t after j} (split : past = before ++ t :: after) (act : t.act = .resend j)
    (number : Established before j n)

/-- A code step goes back with its own number. -/
theorem OpenStep.handoffBack_number {o : OpenStep} {h : Handoff} (back : o.handoffBack? = some h) :
    o.phoneNumber? = h.phoneNumber := by
  cases o with
  | loginCode => cases back; rfl
  | confirmationCode => cases back; rfl
  | _ => cases back

theorem Scene.run_suggestion (fresh : s.steps = []) (nothing : s.received = .stay) (follows : s.Follows acts)
    (split : s.run acts = earlier ++ t :: later) {i : Nat} {o : Opened} (found : t.before.steps[i]? = some o)
    {n : String} (suggested : o.step.suggested? = some n) : SuggestedBy earlier n := by
  have number := run_suggests fresh split found n suggested
  obtain ⟨opening⟩ := (run_traced fresh nothing follows split).opened i o found
  have past : earlier = opening.origin.before ++ opening.origin.offer ::
      (opening.origin.between ++ opening.opening :: opening.later) :=
    opening.split.trans ((congrArg (· ++ opening.opening :: opening.later) opening.origin.split).trans (by simp))
  have offers := opening.origin.offered (opening.earlier_sub split)
  have phone : o.step.step = .phoneNumber := by
    cases kind : o.step <;> simp [kind,OpenStep.suggested?,OpenStep.step] at suggested ⊢
  generalize o.step.step = kind at *
  generalize o.handoff = h at *
  cases offers with
  | launched act =>
    have member := List.mem_append_left (opening.opening :: opening.later) opening.origin.offer_mem
    exact .host ((congrArg (_ ∈ ·) opening.split).mpr member) act (Option.some.inj number)
  | restarted => cases number
  | @wentBack j p _ act there back =>
    refine .codeStep past act ?_
    have same := (OpenStep.handoffBack_number back).trans number
    exact run_established fresh nothing follows (opening.origin.run_split (opening.run_split split)) there same
  | handed act there hands => cases hands <;> cases phone

end

/-! ### What a suggestion is asked for by -/

/-- The number that a code is asked for. -/
def Occurrence.number? : Occurrence → Option String
  | .asked (.authenticateDevice number _) _ => some number
  | _ => none

/-- The numbers that a code is asked for in a turn. -/
def Turn.numbers (t : Turn γ σ) : List String := t.happened.filterMap Occurrence.number?

theorem Occurrence.number_of_uncalled (o : Occurrence) (uncalled : o.call? = none) : o.number? = none := by
  cases o with
  | asked => cases uncalled
  | _ => rfl

theorem PhoneStep.Sends.numbers {p p' : PhoneStep} {channel : Channel} {l : List Occurrence} {fin : Finale}
    (sends : p.Sends channel p' l fin) : l.filterMap Occurrence.number? = [p.phoneNumber] := by
  cases sends <;> rfl

/-- A phone step has a code sent to what the user enters after the code of the country, if it is open and the user
    enters anything. -/
theorem Submits.numbers [SessionStore σ] {p : PhoneStep} {o' : OpenStep} {input : String} {w w' : World γ σ} {m : Move}
    (submits : Submits (.phone p) input w m o' w') (empty : w.history = []) :
    w'.history.filterMap Occurrence.number? =
      if p.core.isClosed = false ∧ Text.trim input ≠ "" then [PhoneStep.fullNumber p.countryCode (Text.trim input)]
      else [] := by
  cases submits with
  | ignored rest =>
    have idle := StepState.idle (c := p.core) rest
    rw [empty,if_neg]
    · rfl
    · rintro ⟨open_,written⟩
      rcases idle with closed | blank
      · rw [open_] at closed
        cases closed
      · exact written blank
  | went accepted course ends =>
    rw [if_pos (StepState.ready (c := p.core) accepted)]
    obtain ⟨rest,history,quiet⟩ := ends.uncalled
    rw [World.advance_history,empty,List.nil_append] at history
    cases course with
    | phone sends =>
      rw [history,filterMap_sends Occurrence.number_of_uncalled (PhoneStep.attempt_call _) quiet,sends.numbers]
      rfl

/-- A submit of a phone step has a code sent to what the user enters after the code of the country. Where that is the
    international number that the step suggests, from the host or from a code step, the code is not asked for this
    number but for one that is not international. -/
theorem suggestion_prefixed [Gateway γ] [SessionStore σ] {s : Scene γ σ} {acts : List Act}
    {earlier later : List (Turn γ σ)} {t : Turn γ σ} (split : s.run acts = earlier ++ t :: later) {i : Nat}
    {input : String} (act : t.act = .submit i input) {o : Opened} (found : t.before.steps[i]? = some o) {p : PhoneStep}
    (phone : o.step = .phone p) {n : String} (suggested : p.suggested = some n) (form : International n) :
    (s.steps = [] → s.received = .stay → s.Follows acts → SuggestedBy earlier n) ∧
      t.numbers = (if p.core.isClosed = false ∧ Text.trim input ≠ "" then
        [PhoneStep.fullNumber p.countryCode (Text.trim input)] else []) ∧
      (input = n → t.numbers = (if p.core.isClosed = false then [PhoneStep.fullNumber p.countryCode n] else []) ∧
        n ∉ t.numbers ∧ ∀ m ∈ t.numbers, ¬ International m) := by
  have member : t ∈ s.run acts := split ▸ List.mem_append_right _ List.mem_cons_self
  obtain ⟨m,step,-,submits⟩ := Turn.submitted member act found
  rw [phone] at submits
  have sent : t.numbers = _ := submits.numbers rfl
  refine ⟨?_,sent,?_⟩
  · intro fresh nothing follows
    exact Scene.run_suggestion fresh nothing follows split found (by rw [phone]; exact suggested)
  · rintro rfl
    simp only [form.trim_eq,form.nonempty,ne_eq,not_false_eq_true,and_true] at sent
    have strange : ∀ m ∈ t.numbers, ¬ International m := by
      intro m there
      rw [sent] at there
      split at there
      · rw [List.mem_singleton.mp there]
        exact PhoneStep.fullNumber_not_international form _
      · cases there
    exact ⟨sent,fun same => strange _ same form,strange⟩

/-- The host suggests a number, and the user enters it as it stands. -/
theorem host_number_prefixed :
    let n := "+15555555555"
    let run := (Scene.scripted {}).run
      [.start ⟨1,n,false⟩,.openStep .phoneNumber { receiver := some 0, phoneNumber := some n },.submit 0 n]
    SuggestedBy (run.take 2) n ∧ n ∉ run[2].numbers ∧ run[2].numbers = ["+1+15555555555"] := by
  intro n run
  have split : run = run.take 2 ++ run[2] :: [] := rfl
  obtain ⟨o,p,found,phone,suggested⟩ : ∃ o p, run[2].before.steps[0]? = some o ∧ o.step = .phone p ∧
    p.suggested = some n := ⟨_,_,rfl,rfl,by decide +kernel⟩
  have form : International n := by decide
  obtain ⟨source,-,entered⟩ := suggestion_prefixed split rfl found phone suggested form
  have follows : ∀ t ∈ run, t.Follows := by decide +kernel
  exact ⟨source rfl rfl follows,(entered rfl).2.1,by decide +kernel⟩

/-- The number that the host suggests is entered as it stands, and so is the number that the code step leads back with,
    for which the service wrote the same. Both times the code is asked for another number. -/
theorem suggestions_entered :
    let n := "+15555555555"
    let run := (Scene.scripted
      { authenticateDevice := [.ok { requestId := "r1", userId := 7, normalizedPhoneNumber := some n },
          .ok { requestId := "r2", userId := 7, normalizedPhoneNumber := some n }] }).run
      [.start ⟨1,n,false⟩,.openStep .phoneNumber { receiver := some 0, phoneNumber := some n },.submit 0 n,
        .openStep .loginCode { receiver := some 0, phoneNumber := some n, requestId := some "r1", userId := some 7 },
        .resend 1,.openStep .phoneNumber { receiver := some 0, phoneNumber := some n, resend := true },.submit 2 n]
    International n ∧ (∀ t ∈ run, t.Follows) ∧ run[2].before.steps[0]?.map (·.step.suggested?) = some (some n) ∧
      run[2].numbers = ["+1+15555555555"] ∧ run[6].before.steps[2]?.map (·.step.suggested?) = some (some n) ∧
      run[6].numbers = ["+1+15555555555"] := by
  decide +kernel

end PhoneSignIn.Flow
