import PhoneSignIn.Proofs.Console.Exchange
import PhoneSignIn.Proofs.Flow.Survival

/-!
Whole dialogues at the terminal. `exchanges` are the questions and answers of a dialogue, one line each until the
input ends, and `converse_run` says that the dialogue is made of them. A dialogue is held over a receiver that no
one has been told through (`Waits`), exchange by exchange (`Held`); it ends in the last exchange only, and there in
one of three ways (`Closing`), so it always ends well (`dialogue_ends_well`).
-/
namespace PhoneSignIn.Console
open PhoneSignIn.Flow

variable {γ σ : Type}

/-! ### Exchanges -/

/-- A question and what came of its answer; no line is the end of the input. -/
structure Exchange (γ σ : Type) where
  question : Question
  line : Option String
  before : Terminal γ σ
  progress : Progress
  after : Terminal γ σ

/-- What happened during an exchange. -/
def Exchange.happened (e : Exchange γ σ) : List Occurrence :=
  e.after.world.history.drop e.before.world.history.length

/-- The lines that exchanges have taken. -/
def taken (es : List (Exchange γ σ)) : List String := es.filterMap (·.line)

theorem taken_cons (e : Exchange γ σ) (es : List (Exchange γ σ)) : taken (e :: es) = e.line.toList ++ taken es := by
  rw [taken,List.filterMap_cons]
  cases e.line <;> rfl

section
variable [Gateway γ] [SessionStore σ]

/-- Take an answer to a question. -/
def exchange (q : Question) (line : Option String) (t : Terminal γ σ) : Exchange γ σ where
  question := q
  line
  before := t
  progress := ((answer q line).run t).1
  after := ((answer q line).run t).2

/-- The exchanges at the end of the input. -/
def closing (q : Question) (t : Terminal γ σ) : List (Exchange γ σ) :=
  let e := exchange q none t
  match e.progress with
  | .ask q' => [e,exchange q' none e.after]
  | _ => [e]

/-- The exchanges of a dialogue with the lines of an input, from where it stands. -/
def exchanges : Progress → List String → Terminal γ σ → List (Exchange γ σ)
  | .ask q, [], t => closing q t
  | .ask q, line :: lines, t =>
    let e := exchange q (some line) t
    e :: exchanges e.progress lines e.after
  | _, _, _ => []

/-- Where a dialogue stands after exchanges. -/
def standing (p : Progress) (t : Terminal γ σ) (es : List (Exchange γ σ)) : Progress × Terminal γ σ :=
  (es.getLast?.map fun e => (e.progress,e.after)).getD (p,t)

omit [Gateway γ] [SessionStore σ] in
theorem standing_cons (p : Progress) (t : Terminal γ σ) (e : Exchange γ σ) (es : List (Exchange γ σ)) :
    standing p t (e :: es) = standing e.progress e.after es := by
  cases es with
  | nil => rfl
  | cons e' es =>
    rw [standing,List.getLast?_cons_cons,standing]
    cases last : (e' :: es).getLast? with
    | none => simp at last
    | some _ => rfl

theorem close_run (q : Question) (t : Terminal γ σ) :
    (close q).run t = standing (.ask q) t (closing q t) := by
  have ran : (close q).run t = (match (exchange q none t).progress with
      | .ask q' => answer q' none
      | p => pure p : Interaction γ σ Progress).run (exchange q none t).after := rfl
  rw [ran,closing]
  cases p : (exchange q none t).progress with
  | ask q' => rfl
  | done => exact congrArg (·,_) p.symm
  | broken => exact congrArg (·,_) p.symm

/-- A dialogue is made of its exchanges, and ends well unless the last one breaks it off. -/
theorem converse_run (p : Progress) (lines : List String) (t : Terminal γ σ) :
    (converse p (lines.map some)).run t =
      (decide ((standing p t (exchanges p lines t)).1 ≠ .broken),(standing p t (exchanges p lines t)).2) := by
  induction lines generalizing p t with
  | nil =>
    cases p with
    | ask q =>
      have ran : (converse (.ask q) []).run t = (decide ((standing (.ask q) t (closing q t)).1 ≠ .broken),
          (standing (.ask q) t (closing q t)).2) := by
        rw [← close_run]
        rfl
      exact ran
    | done => rfl
    | broken => rfl
  | cons line lines ih =>
    cases p with
    | ask q =>
      rw [exchanges,standing_cons]
      exact ih _ _
    | done => rfl
    | broken => rfl

/-! ### Dialogues -/

/-- Whether a host that is there waits to be told through a receiver. -/
structure Waits (host : HostId) (r : ReceiverId) (w : World γ σ) : Prop where
  receiver : w.receivers[r]? = some { callback := { host }, delivered := false }
  there : w.isThere host = true

/-- A dialogue that is held from a question on, exchange by exchange; the answer to a question is the next line. -/
inductive Held : Question → List String → Terminal γ σ → List (Exchange γ σ) → Prop where
  | ends {q lines t} (done : (exchange q lines.head? t).progress = .done)
    (answered : Answered q lines.head? t.world .done (exchange q lines.head? t).after.world) :
    Held q lines t [exchange q lines.head? t]
  | goesOn {q q' lines t es} (asks : (exchange q lines.head? t).progress = .ask q')
    (answered : Answered q lines.head? t.world (.ask q') (exchange q lines.head? t).after.world)
    (rest : Held q' lines.tail (exchange q lines.head? t).after es) :
    Held q lines t (exchange q lines.head? t :: es)

/-- Every answer is one of those that `Answered` tells. -/
theorem exchange_answered (q : Question) (line : Option String) (t : Terminal γ σ) :
    Answered q line t.world (exchange q line t).progress (exchange q line t).after.world := by
  obtain ⟨p,w,⟨shown,ran⟩,answered⟩ := answer_answered q line t
  simp only [exchange,ran]
  exact answered

theorem closing_held (q : Question) (t : Terminal γ σ) : Held q [] t (closing q t) := by
  have answered := exchange_answered q none t
  rw [closing]
  cases p : (exchange q none t).progress with
  | ask q' =>
    rw [p] at answered
    refine .goesOn p answered ?_
    -- At the end of the input only the question for the country leads to another, which is the last.
    cases answered with
    | asks _ _ closing =>
      obtain ⟨s,rfl⟩ := (closing rfl).2
      exact .ends rfl (.ended rfl rfl)
  | done =>
    rw [p] at answered
    exact .ends p answered
  | broken =>
    rw [p] at answered
    cases answered

theorem exchanges_done (lines : List String) (t : Terminal γ σ) : exchanges .done lines t = [] := by
  cases lines <;> rfl

theorem exchanges_held (q : Question) (lines : List String) (t : Terminal γ σ) :
    Held q lines t (exchanges (.ask q) lines t) := by
  induction lines generalizing q t with
  | nil => exact closing_held q t
  | cons line lines ih =>
    have answered := exchange_answered q (line :: lines).head? t
    change Held q (line :: lines) t (exchange q (line :: lines).head? t ::
      exchanges (exchange q (line :: lines).head? t).progress lines (exchange q (line :: lines).head? t).after)
    cases p : (exchange q (line :: lines).head? t).progress with
    | ask q' =>
      rw [p] at answered
      exact .goesOn p answered (ih _ _)
    | done =>
      rw [p] at answered
      rw [exchanges_done]
      exact .ends p answered
    | broken =>
      rw [p] at answered
      cases answered

/-! ### Lines and calls -/

theorem Answered.few_calls {q : Question} {line : Option String} {w w' : World γ σ} {p : Progress}
    (answered : Answered q line w p w') : ∃ l, w'.history = w.history ++ l ∧
      (l.filterMap Occurrence.call?).length ≤ if line.isSome then 2 else 0 := by
  have uncalled {w' : World γ σ} (uncalled : w.Uncalled w') : ∃ l, w'.history = w.history ++ l ∧
      (l.filterMap Occurrence.call?).length ≤ if line.isSome then 2 else 0 := by
    obtain ⟨l,history,quiet⟩ := uncalled
    exact ⟨l,history,by rw [List.filterMap_eq_nil_iff.mpr quiet]; exact Nat.zero_le _⟩
  cases answered with
  | asks same settles =>
    obtain ⟨l,g,st,-,few,rfl⟩ := settles
    exact ⟨l,rfl,few⟩
  | signedIn entry sent ran submits =>
    subst sent
    exact submits.few_calls
  | dismissed retry no clicked arrives => exact uncalled (clicked.uncalled.trans arrives.uncalled)
  | ended => exact uncalled (.of_same rfl)

/-- In an exchange two calls are made at most, and none when there is no line. -/
theorem Held.few_calls {q : Question} {lines : List String} {t : Terminal γ σ} {es : List (Exchange γ σ)}
    (held : Held q lines t es) : ∀ e ∈ es, e.progress ≠ .broken ∧
      e.after.world.history = e.before.world.history ++ e.happened ∧
      (e.happened.filterMap Occurrence.call?).length ≤ if e.line.isSome then 2 else 0 := by
  have one (q : Question) (line : Option String) (t : Terminal γ σ) : let e := exchange q line t
      e.after.world.history = e.before.world.history ++ e.happened ∧
        (e.happened.filterMap Occurrence.call?).length ≤ if e.line.isSome then 2 else 0 := by
    obtain ⟨l,history,few⟩ := (exchange_answered q line t).few_calls
    have happened : (exchange q line t).happened = l := by
      rw [Exchange.happened,history]
      exact List.drop_left
    exact ⟨by rw [happened]; exact history,by rw [happened]; exact few⟩
  induction held with
  | ends done => exact fun e member => List.mem_singleton.mp member ▸ ⟨by rw [done]; simp,one _ _ _⟩
  | goesOn asks answered rest ih =>
    intro e member
    rcases List.mem_cons.mp member with rfl | later
    · exact ⟨by rw [asks]; simp,one _ _ _⟩
    · exact ih e later

/-- At the end of the input an entry is asked for last. -/
theorem Held.ended {s : OpenStep} {t : Terminal γ σ} {es : List (Exchange γ σ)} (held : Held (.entry s) [] t es) :
    es = [exchange (.entry s) none t] := by
  cases held with
  | ends => rfl
  | goesOn asks answered rest =>
    cases answered with
    | asks _ _ closing =>
      obtain ⟨_,same⟩ := (closing rfl).1
      cases same

/-- Every exchange takes the next line, until the input ends; then the dialogue ends as well, after one more question
    at most. -/
theorem Held.takes {q : Question} {lines : List String} {t : Terminal γ σ} {es : List (Exchange γ σ)}
    (held : Held q lines t es) {earlier later : List (Exchange γ σ)} {e : Exchange γ σ}
    (split : es = earlier ++ e :: later) : taken earlier ++ e.line.toList <+: lines ∧
      (e.line = none → taken earlier = lines ∧ (later = [] ∨ (∃ s, e.question = .country s) ∧
        ∃ e' s', later = [e'] ∧ e'.question = .entry s' ∧ e'.line = none)) := by
  have whole (lines : List String) : lines.head?.toList ++ lines.tail = lines := by cases lines <;> rfl
  induction held generalizing earlier with
  | @ends q lines t done =>
    cases earlier with
    | nil =>
      obtain ⟨rfl,rfl⟩ := List.cons.inj split
      refine ⟨⟨lines.tail,whole lines⟩,fun spent => ⟨?_,.inl rfl⟩⟩
      exact (List.head?_eq_none_iff.mp spent).symm
    | cons x earlier => simp at split
  | @goesOn q q' lines t es asks answered rest ih =>
    cases earlier with
    | nil =>
      obtain ⟨rfl,rfl⟩ := List.cons.inj split
      refine ⟨⟨lines.tail,whole lines⟩,fun spent => ?_⟩
      obtain rfl : lines = [] := List.head?_eq_none_iff.mp spent
      refine ⟨rfl,.inr ?_⟩
      cases answered with
      | asks _ _ closing =>
        obtain ⟨country,s',rfl⟩ := closing rfl
        exact ⟨country,_,s',rest.ended,rfl,rfl⟩
    | cons x earlier =>
      obtain ⟨rfl,split'⟩ := List.cons.inj split
      obtain ⟨⟨unread,took⟩,spent⟩ := ih split'
      have first : taken (exchange q lines.head? t :: earlier) = lines.head?.toList ++ taken earlier := taken_cons _ _
      rw [first]
      refine ⟨⟨unread,?_⟩,fun none => ⟨?_,(spent none).2⟩⟩
      · rw [List.append_assoc,List.append_assoc,← List.append_assoc _ _ unread,took,whole]
      · rw [(spent none).1,whole]

end

/-! ### Outcomes -/

/-- Whether the host is told last, and of this alone. -/
def TellsLast (l : List Occurrence) (d : Delivery) : Prop :=
  ∃ before, l = before ++ [.delivered d] ∧ ∀ o ∈ before, o.outcome? = none

/-- Whether no call is made after a host was told of an outcome. -/
def CallsFirst (l : List Occurrence) : Prop := l.Pairwise fun x y => x.outcome? ≠ none → y.call? = none

theorem CallsFirst.of_unsaid {l l' : List Occurrence} (unsaid : ∀ o ∈ l, o.outcome? = none) (rest : CallsFirst l') :
    CallsFirst (l ++ l') := by
  refine List.pairwise_append.mpr ⟨?_,rest,fun x member _ _ said => absurd (unsaid x member) said⟩
  exact List.Pairwise.imp_of_mem (fun member _ _ said => absurd (unsaid _ member) said)
    (List.pairwise_of_forall fun _ _ => trivial)

theorem TellsLast.callsFirst {l : List Occurrence} {d : Delivery} (tells : TellsLast l d) : CallsFirst l := by
  obtain ⟨before,rfl,unsaid⟩ := tells
  exact .of_unsaid unsaid (List.pairwise_singleton _ _)

theorem TellsLast.outcomes {l : List Occurrence} {d : Delivery} (tells : TellsLast l d)
    (outcome : (Occurrence.delivered d).outcome? = some d) : l.filterMap Occurrence.outcome? = [d] := by
  obtain ⟨before,rfl,unsaid⟩ := tells
  rw [List.filterMap_append,List.filterMap_eq_nil_iff.mpr unsaid,List.filterMap_cons_some outcome]
  rfl

theorem Waits.settles {host : HostId} {r : ReceiverId} {n : Nat} {w w' : World γ σ} (waits : Waits host r w)
    (settles : Settles n w w') : Waits host r w' := by
  obtain ⟨l,g,st,-,-,rfl⟩ := settles
  exact ⟨waits.receiver,waits.there⟩

/-- A failure that is handed in is told to the host that waits. -/
theorem Waits.told_failure [SessionStore σ] {host : HostId} {r : ReceiverId} {w w' : World γ σ} {data : LoginResult}
    (waits : Waits host r w) (arrives : Arrives w r failureCode data w') :
    ∃ l, w'.history = w.history ++ l ∧ TellsLast l (.failure host (data.loginError.getD "")) := by
  cases arrives with
  | success signedIn => cases signedIn
  | failure _ found =>
    obtain rfl := Option.some.inj (found.symm.trans waits.receiver)
    refine ⟨_,rfl,?_⟩
    have can : w.canTell { host } = true := waits.there
    rw [World.telling,if_pos can]
    exact ⟨[_],rfl,by simp [Occurrence.outcome?]⟩
  | dropped before => cases before _ waits.receiver
  | meaningless _ noFailure => exact absurd rfl noFailure

/-- The success that a submit hands in is told to the host that waits, with the session that the store holds then. -/
theorem Waits.told_success [SessionStore σ] [LawfulStore σ] {host : HostId} {s s' : OpenStep} {input : String}
    {w w' : World γ σ} (waits : Waits host s.core.receiver w) (submits : Submits s input w .signedIn s' w') :
    ∃ session n l, w'.history = w.history ++ l ∧ TellsLast l (.success host session n) ∧
      Holds w'.store (some session) := by
  cases submits.writes with
  | nothing _ _ unsigned => exact absurd rfl unsigned
  | @signedIn session n l g st st' _ plain source number kept arrives =>
    have held : Holds st' (some session) := LawfulStore.holds_written kept
    have answer : SessionStore.read st' = (.ok (some session),st') := held
    cases arrives with
    | success _ found =>
      obtain rfl := Option.some.inj (found.symm.trans waits.receiver)
      have can : (w.advance g st' (l ++ [.wrote session (.ok ())])).canTell { host } = true := waits.there
      refine ⟨session,n,l ++ [.wrote session (.ok ()),.read (.ok (some session)),.recorded ⟨.auth,.success⟩] ++
        [.delivered (.success host session n)],?_,⟨_,rfl,?_⟩,?_⟩
      · simp only [World.advance_history,World.used_history,World.advance_store,answer,World.telling,can,if_true,
          List.append_assoc,List.cons_append,List.nil_append]
        rfl
      · intro o member
        rcases List.mem_append.mp member with before | after
        · exact (plain o before).tells_none
        · simp only [List.mem_cons,List.not_mem_nil,or_false] at after
          rcases after with rfl | rfl | rfl <;> rfl
      · simp only [World.advance_store,answer]
        exact held
    | failure failed => cases failed
    | dropped before => cases before _ waits.receiver
    | meaningless noSuccess => exact absurd rfl noSuccess

/-- How a dialogue ends in its last exchange, by what the host has been told in all: -/
inductive Exchange.Ends [Gateway γ] (host : HostId) (e : Exchange γ FileStore) : List Delivery → Prop where
  /-- the user is signed in, and the file has the session that the host has been told of; -/
  | signedIn {s line session n} (entry : e.question = .entry s) (sent : e.line = some line)
    (moved : ((s.submit line).run e.before.world).1.1 = .signedIn)
    (stored : FileStore.stored e.after.world.store.disk e.after.world.store.path = some session) :
    Ends host e [.success host session n]
  /-- no other number is tried after a failure, because the user or the end of the input says no; -/
  | dismissed {screen} (retry : e.question = .retry screen) (no : e.line.any isYes = false) :
    Ends host e [.failure host screen.failure.reason.explanation]
  /-- or the input ends where an entry is asked for. -/
  | ended {s} (entry : e.question = .entry s) (spent : e.line = none) : Ends host e []

/-- An answer that ends the dialogue tells the host that waits at most once, last of all. -/
theorem Answered.ends [Gateway γ] {host : HostId} {q : Question} {line : Option String} {w w' : World γ FileStore}
    (answered : Answered q line w .done w') (waits : Waits host q.receiver w) :
    ∃ l, w'.history = w.history ++ l ∧ CallsFirst l ∧ ∀ e : Exchange γ FileStore, e.question = q → e.line = line →
      e.before.world = w → e.after.world = w' → e.Ends host (l.filterMap Occurrence.outcome?) := by
  cases answered with
  | signedIn entry sent ran submits =>
    subst entry
    obtain ⟨session,n,l,history,tells,held⟩ := waits.told_success submits
    refine ⟨l,history,tells.callsFirst,fun e question line before after => ?_⟩
    rw [tells.outcomes rfl]
    refine .signedIn question (line.trans sent) (by rw [before,ran]) ?_
    rw [after]
    exact FileStore.stored_bytes (submits.writes.signedIn_left held)
  | @dismissed screen w₁ _ retry no clicked arrives =>
    subst retry
    have waits₁ : Waits host screen.failure.receiver w₁ := waits.settles (.of_records 0 clicked)
    obtain ⟨l,history,tells⟩ := waits₁.told_failure arrives
    obtain ⟨l₁,noted,rfl⟩ := clicked
    have unsaid : ∀ o ∈ l₁, o.outcome? = none := fun o member => (noted o member).plain.tells_none
    refine ⟨l₁ ++ l,by rw [history,World.advance_history,List.append_assoc],.of_unsaid unsaid tells.callsFirst,
      fun e question line _ _ => ?_⟩
    rw [List.filterMap_append,List.filterMap_eq_nil_iff.mpr unsaid,List.nil_append,tells.outcomes rfl]
    exact .dismissed question (by rw [line,no])
  | ended entry spent =>
    exact ⟨[],(List.append_nil _).symm,.nil,fun e question line _ _ => .ended (question.trans entry) (line.trans spent)⟩

/-- The host is told at the end of the dialogue, once at most; two calls are made at most for every line, and none
    after the host was told. -/
theorem Held.outcome [Gateway γ] {host : HostId} {q : Question} {lines : List String} {t : Terminal γ FileStore}
    {es : List (Exchange γ FileStore)} (held : Held q lines t es) (waits : Waits host q.receiver t.world) :
    ∃ last l, es.getLast? = some last ∧ last.progress = .done ∧ last.after.world.history = t.world.history ++ l ∧
      (l.filterMap Occurrence.call?).length ≤ 2 * (taken es).length ∧ CallsFirst l ∧
      last.Ends host (l.filterMap Occurrence.outcome?) := by
  induction held with
  | @ends q lines t done answered =>
    obtain ⟨l,history,calls,ends⟩ := answered.ends waits
    obtain ⟨l',history',few⟩ := answered.few_calls
    obtain rfl : l = l' := List.append_cancel_left (history.symm.trans history')
    refine ⟨_,l,rfl,done,history,?_,calls,ends _ rfl rfl rfl rfl⟩
    cases lines <;> simpa [taken,exchange] using few
  | @goesOn q q' lines t es asks answered rest ih =>
    obtain ⟨same,settles⟩ : q'.receiver = q.receiver ∧
        Settles (if lines.head?.isSome then 2 else 0) t.world (exchange q lines.head? t).after.world := by
      generalize (exchange q lines.head? t).after.world = w' at answered
      cases answered with
      | asks same settles => exact ⟨same,settles⟩
    have waits' : Waits host q'.receiver (exchange q lines.head? t).after.world := same ▸ waits.settles settles
    obtain ⟨last,l,ended,done,history,few,calls,ends⟩ := ih waits'
    obtain ⟨l₀,g,st,unsaid,few₀,moved⟩ := settles
    refine ⟨last,l₀ ++ l,?_,done,?_,?_,.of_unsaid unsaid calls,?_⟩
    · rw [List.getLast?_cons,ended]
      rfl
    · rw [history,moved,World.advance_history,List.append_assoc]
    · rw [taken_cons,List.filterMap_append,List.length_append,List.length_append]
      have first : (l₀.filterMap Occurrence.call?).length ≤ 2 * (exchange q lines.head? t).line.toList.length := by
        cases lines <;> simpa [exchange] using few₀
      omega
    · rw [List.filterMap_append,List.filterMap_eq_nil_iff.mpr unsaid,List.nil_append]
      exact ends

/-! ### All dialogues -/

/-- A dialogue that a launched sign-in is held in always ends well, whatever is typed and whatever the service answers:
    every step opens, and every exchange takes the next line until the input ends, when one more question is asked at
    most. Two calls are made at most in an exchange, and for every line that is taken. The host is told once, of the
    session that is left in the file, when the dialogue has signed the user in, once of the failure when no other
    number is tried, and otherwise not at all; no call is made after that. -/
theorem dialogue_ends_well [Gateway γ] {config : SignInRequest} {w w' : World γ FileStore} {h : Handoff}
    (launched : (startSignIn config).run w = (.ok (.launch h),w')) (there : w.isThere config.host = true)
    (shown : String) (lines : List String) :
    ∃ q t es last l, (enter .phoneNumber h : Interaction γ FileStore Progress).run ⟨w',shown⟩ = (.ask q,t) ∧
      es = exchanges (.ask q) lines t ∧ es.getLast? = some last ∧ last.progress = .done ∧
      (do converse (← enter .phoneNumber h) (lines.map some) : Interaction γ FileStore Bool).run ⟨w',shown⟩ =
        (true,last.after) ∧
      (∀ e ∈ es, e.progress ≠ .broken ∧ e.after.world.history = e.before.world.history ++ e.happened ∧
        (e.happened.filterMap Occurrence.call?).length ≤ if e.line.isSome then 2 else 0) ∧
      (∀ earlier e later, es = earlier ++ e :: later → taken earlier ++ e.line.toList <+: lines ∧
        (e.line = none → taken earlier = lines ∧ (later = [] ∨ (∃ s, e.question = .country s) ∧
          ∃ e' s', later = [e'] ∧ e'.question = .entry s' ∧ e'.line = none))) ∧
      last.after.world.history = w'.history ++ l ∧
      (l.filterMap Occurrence.call?).length ≤ 2 * (taken es).length ∧ CallsFirst l ∧
      last.Ends config.host (l.filterMap Occurrence.outcome?) := by
  have begins := startSignIn_begins config w
  rw [launched] at begins
  have carried : h.receiver = some w.receivers.length := begins.receiver
  have waits : Waits config.host w.receivers.length w' := by
    cases begins with
    | launched =>
      refine ⟨?_,there⟩
      exact List.getElem?_concat_length
  obtain ⟨q,w₁,⟨shown₁,entered⟩,records,receiver⟩ :=
    enter_does ((Handoff.fits_phone carried).opens carried) (⟨w',shown⟩ : Terminal γ FileStore)
  have held := exchanges_held q lines (⟨w₁,shown₁⟩ : Terminal γ FileStore)
  have settled : Settles 0 w' w₁ := .of_records 0 records
  have waits₁ : Waits config.host q.receiver w₁ := receiver ▸ waits.settles settled
  obtain ⟨last,l,ended,done,history,few,calls,ends⟩ := held.outcome waits₁
  obtain ⟨l₀,g,st,unsaid,few₀,moved⟩ := settled
  refine ⟨q,_,_,last,l₀ ++ l,entered,rfl,ended,done,?_,held.few_calls,fun _ _ _ split => held.takes split,?_,?_,
    .of_unsaid unsaid calls,?_⟩
  · have ran := converse_run (.ask q) lines (⟨w₁,shown₁⟩ : Terminal γ FileStore)
    rw [standing,ended] at ran
    rw [StateT.run_bind,entered]
    refine ran.trans ?_
    simp [done]
  · rw [history,moved,World.advance_history,List.append_assoc]
  · rw [List.filterMap_append,List.length_append]
    omega
  · rw [List.filterMap_append,List.filterMap_eq_nil_iff.mpr unsaid,List.nil_append]
    exact ends

/-- A terminal at which a sign-in has just begun, over one file on an empty disk. -/
def fileTerminal : Terminal GatewayScript FileStore :=
  { world := ((startSignIn ⟨1,"",false⟩).run fileScene.world).2 }

/-- A user who takes the country as it is, logs in and goes on typing. -/
def loginDialogue : Interaction GatewayScript FileStore Bool := do
  converse (← enter .phoneNumber { receiver := some 0, phoneNumber := some "" }) (["","5","9","/resend"].map some)

theorem loginDialogue_told : ((loginDialogue.run fileTerminal).2.world.history.drop
    fileTerminal.world.history.length).filterMap Occurrence.outcome? =
      [.success 1 (.ofCredentials { token := some "t", secret := some "s", userId := 7 } "+15") "+15"] := by
  decide +kernel

/-- The host is told of a login at the terminal, and its session is left in the file. -/
theorem login_dialogue_ends :
    ∃ last : Exchange GatewayScript FileStore, loginDialogue.run fileTerminal = (true,last.after) ∧
      last.Ends 1
        [.success 1 (.ofCredentials { token := some "t", secret := some "s", userId := 7 } "+15") "+15"] := by
  have launched : (startSignIn ⟨1,"",false⟩).run fileScene.world =
      (.ok (.launch { receiver := some 0, phoneNumber := some "" }),fileTerminal.world) := rfl
  obtain ⟨q,t,es,last,l,-,-,-,-,ran,-,-,history,-,-,ends⟩ :=
    dialogue_ends_well launched rfl "" ["","5","9","/resend"]
  refine ⟨last,ran,?_⟩
  have told := loginDialogue_told
  rw [show loginDialogue.run fileTerminal = (true,last.after) from ran,history,List.drop_left] at told
  rw [← told]
  exact ends

end PhoneSignIn.Console
