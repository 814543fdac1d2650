import PhoneSignIn.Gateway.Rest
import PhoneSignIn.Proofs.Json.Lexer
import PhoneSignIn.Proofs.Url.Form

/-!
What a request says. The request of a call has the call's form as its body and the call's query as the query
of its URL, whatever the base URL had there (`request_parts`); the values of a form's fields stand nowhere
else and decide nothing (`request_form`). So the service reads each field that it documents with exactly the
value that was given, and different calls of one kind send different texts (`fields_arrive`).
-/
namespace PhoneSignIn.Text.Decimal

/-- Different numbers have different texts. -/
theorem ofInt_injective : Function.Injective ofInt := by
  have digits_injective {m n : Nat} (same : digits m = digits n) : m = n := by
    rw [← value_digits m,← value_digits n,same]
  have unsigned (m n : Nat) (rest : List Char) : digits m ≠ '-' :: rest := by
    intro same
    have digit := isDigit_of_digits (n := m) (c := '-') (by rw [same]; exact List.mem_cons_self)
    cases digit
  intro y z same
  have same' := congrArg String.toList same
  simp only [ofInt,ofNat] at same'
  split_ifs at same' with negative negative' negative'
  · simp only [String.toList_append,String.toList_ofList,List.append_cancel_left_eq] at same'
    have sizes := digits_injective same'
    omega
  · simp only [String.toList_append,String.toList_ofList] at same'
    exact absurd same'.symm (unsigned _ 0 _)
  · simp only [String.toList_append,String.toList_ofList] at same'
    exact absurd same' (unsigned _ 0 _)
  · simp only [String.toList_ofList] at same'
    have sizes := digits_injective same'
    omega

end PhoneSignIn.Text.Decimal

namespace PhoneSignIn.RestGateway
open Http Url

variable {ν ν' : Type} {g : RestGateway ν} {call : Call} {r : Request}

/-- A URL that a path leads to has no query, whatever the base had. -/
theorem join_query {base url : Url} {path : String} (joined : base.join path = .ok url) : url.query = none := by
  rw [Url.join] at joined
  split at joined
  · cases joined
  · cases joined
    rfl

/-- Without user name and password a URL has another authority, and is the same beside it. -/
theorem takeCredentials_url (url : Url) : ∃ authority, (takeCredentials url).2 = { url with authority } := by
  rw [takeCredentials]
  split
  · exact ⟨_,rfl⟩
  · simp only
    split <;> exact ⟨_,rfl⟩

/-- What was sent is built from the URL that the call's path leads to, and nothing about that URL or the token stood
    against it. -/
theorem request_ok (sent : g.request call = .ok r) : ∃ joined, g.base.join (pathOf call) = .ok joined ∧
    r = {
      method := method call
      url := withQuery call (takeCredentials joined).2
      authorization := (takeCredentials joined).1 ++ bearer (token g.guestToken call)
      userAgent
      contentType := (form g.language call).map fun _ => "application/x-www-form-urlencoded"
      body := ((form g.language call).map Form.encode).getD "" } := by
  rw [request] at sent
  split at sent
  · cases sent
  · rename_i joined found
    simp only [Bool.not_eq_true'] at sent
    split_ifs at sent
    cases sent
    exact ⟨joined,found,rfl⟩

/-- The request of a call has the call's form in its body, and the call's query alone in its URL. -/
theorem request_parts (sent : g.request call = .ok r) :
    r.body = ((form g.language call).map Form.encode).getD "" ∧ r.url.query = (query call).map Form.encode := by
  obtain ⟨joined,found,rfl⟩ := request_ok sent
  refine ⟨rfl,?_⟩
  obtain ⟨authority,same⟩ := takeCredentials_url joined
  have plain : joined.query = none := join_query found
  have bare : (takeCredentials joined).2.query = none := by rw [same,plain]
  simp only [withQuery]
  split
  · next none_asked => rw [bare,none_asked,Option.map_none]
  · next pairs asked => rw [bare,asked,Option.map_some,Form.extend]

/-! ### Fields -/

/-- The request brings a form, which the service reads as these fields. -/
def Tells (r : Request) (fields : List (String × String)) : Prop :=
  r.contentType = some "application/x-www-form-urlencoded" ∧ Form.decode r.body = fields

/-- The call's arguments are the fields of a form in the request's body. -/
def HasForm : Call → Prop
  | .verifyAccount _ | .submitEmail .. => False
  | _ => True

/-- A call's form arrives as the fields that it was made of. -/
theorem form_told {fields : List (String × String)} (sent : g.request call = .ok r)
    (made : form g.language call = some fields) : Tells r fields := by
  obtain ⟨joined,-,rfl⟩ := request_ok sent
  simp only [Tells,made,Option.map_some,Option.getD_some,Form.decode_encode,true_and]

/-- The channels have different names. -/
theorem name_injective : Function.Injective Channel.name := by
  rintro (_ | _) (_ | _) same
  all_goals first | rfl | exact absurd same (by decide)

/-- A form tells which call it belongs to. -/
theorem form_injective {language language' : String} {call call' : Call} (fields : HasForm call)
    (same : form language call = form language' call') : call = call' := by
  cases call <;> first | exact fields.elim | skip
  -- Between two kinds of calls the names of the fields differ.
  all_goals
    cases call' <;> simp [form] at same
  case authenticateDevice.authenticateDevice => rw [same.1,name_injective same.2]
  case registerDevice.registerDevice => rw [same.1,name_injective same.2.2]
  case createAccount.createAccount => rw [same.1,same.2]
  case verifyCode.verifyCode => rw [same.1,Int64.toInt_inj.mp (Text.Decimal.ofInt_injective same.2.1),same.2.2]
  case verifyPin.verifyPin => rw [same.1,Int64.toInt_inj.mp (Text.Decimal.ofInt_injective same.2.1),same.2.2]

/-- A call with a form has no query and is authorized by the guests' token; its path and its method are those of its
    kind. -/
theorem kind_decides {call' : Call} (kind : call'.name = call.name) (fields : HasForm call) :
    (pathOf call' = pathOf call ∧ method call' = method call) ∧ (query call' = none ∧ query call = none) ∧
      (∀ guestToken, token guestToken call' = token guestToken call) ∧
      ∀ language, (form language call').map (fun _ => ()) = (form language call).map (fun _ => ()) := by
  cases call <;> first | exact fields.elim | skip
  all_goals
    cases call' <;> simp [Call.name] at kind
    exact ⟨⟨rfl,rfl⟩,⟨rfl,rfl⟩,fun _ => rfl,fun _ => rfl⟩

/-- A call with a form has one in any language. -/
theorem form_some (fields : HasForm call) (language : String) : ∃ made, form language call = some made := by
  cases call <;> first | exact ⟨_,rfl⟩ | exact fields.elim

/-- Two calls that send the same text in their forms are one call. -/
theorem body_injective {call' : Call} {g' : RestGateway ν'} {r' : Request} (kind : call'.name = call.name)
    (fields : HasForm call) (sent : g.request call = .ok r) (sent' : g'.request call' = .ok r')
    (same : r.body = r'.body) : call = call' := by
  obtain ⟨-,-,-,made⟩ := kind_decides kind fields
  obtain ⟨told,found⟩ := form_some fields g.language
  obtain ⟨told',found'⟩ : ∃ told', form g'.language call' = some told' := by
    obtain ⟨told',found'⟩ := form_some fields g'.language
    have both := made g'.language
    rw [found',Option.map_some] at both
    exact Option.isSome_iff_exists.mp (by simpa using congrArg Option.isSome both)
  rw [(request_parts sent).1,(request_parts sent').1,found,found'] at same
  have one : told = told' := Form.encode_injective same
  exact form_injective fields (by rw [found,found',one])

/-- Calls of one kind are sent alike, but for the forms in their bodies. -/
theorem request_form {call' : Call} (kind : call'.name = call.name) (fields : HasForm call) :
    (g.request call').map ({ · with body := "" }) = (g.request call).map ({ · with body := "" }) := by
  obtain ⟨⟨path,method⟩,⟨plain',plain⟩,token,form⟩ := kind_decides kind fields
  have typed : (RestGateway.form g.language call').map (fun _ => "application/x-www-form-urlencoded")
      = (RestGateway.form g.language call).map fun _ => "application/x-www-form-urlencoded" := by
    simpa only [Option.map_map,Function.comp_def]
      using congrArg (Option.map fun _ => "application/x-www-form-urlencoded") (form g.language)
  have url (bare : Url) : withQuery call' bare = withQuery call bare := by rw [withQuery,withQuery,plain',plain]
  simp only [request,path,method,token,url]
  split
  · rfl
  · split_ifs <;> simp only [Except.map,typed]

/-- The service reads every call's fields with the values that the call was made with, in the order of its documentation
    and with nothing beside them. The values of a form stand nowhere else, and whether it is sent does not depend on
    them. So calls of one kind never send the same text for different arguments. -/
theorem fields_arrive (g : RestGateway ν) (g' : RestGateway ν') :
    (∀ phoneNumber channel r, g.request (.authenticateDevice phoneNumber channel) = .ok r →
      Tells r [("x_auth_phone_number",phoneNumber),("verification_type",channel.name)]) ∧
    (∀ phoneNumber channel r, g.request (.registerDevice phoneNumber channel) = .ok r →
      Tells r [("raw_phone_number",phoneNumber),("text_key","third_party_confirmation_code"),
        ("send_numeric_pin","true"),("lang",g.language),("client_identifier_string","digits_sdk"),
        ("verification_type",channel.name)]) ∧
    (∀ code phoneNumber r, g.request (.createAccount code phoneNumber) = .ok r →
      Tells r [("phone_number",phoneNumber),("numeric_pin",code)]) ∧
    (∀ requestId (userId : Int64) code r, g.request (.verifyCode requestId userId code) = .ok r →
      Tells r [("login_verification_request_id",requestId),
        ("login_verification_user_id",Text.Decimal.ofInt userId.toInt),
        ("login_verification_challenge_response",code)]) ∧
    (∀ requestId (userId : Int64) pin r, g.request (.verifyPin requestId userId pin) = .ok r →
      Tells r [("login_verification_request_id",requestId),
        ("login_verification_user_id",Text.Decimal.ofInt userId.toInt),("pin",pin)]) ∧
    (∀ session email r, g.request (.submitEmail session email) = .ok r →
      ∃ query, r.url.query = some query ∧ Form.decode query = [("email_address",email)]) ∧
    (∀ call call', HasForm call → call'.name = call.name →
      (g.request call').map ({ · with body := "" }) = (g.request call).map ({ · with body := "" })) ∧
    (∀ call call' r r', HasForm call → call'.name = call.name → g.request call = .ok r → g'.request call' = .ok r' →
      r.body = r'.body → call = call') ∧
    (∀ session session' email email' r r', g.request (.submitEmail session email) = .ok r →
      g'.request (.submitEmail session' email') = .ok r' → r.url.query = r'.url.query → email = email') := by
  refine ⟨fun _ _ _ sent => form_told sent rfl,fun _ _ _ sent => form_told sent rfl,
    fun _ _ _ sent => form_told sent rfl,fun _ _ _ _ sent => form_told sent rfl,
    fun _ _ _ _ sent => form_told sent rfl,?_,fun _ _ fields kind => request_form kind fields,?_,?_⟩
  · intro session email r sent
    exact ⟨_,(request_parts sent).2,Form.decode_encode _⟩
  · intro call call' r r' fields kind sent sent' same
    exact body_injective kind fields sent sent' same
  · intro session session' email email' r r' sent sent' same
    rw [(request_parts sent).2,(request_parts sent').2] at same
    simpa using Form.encode_injective (Option.some.inj same)

/-- A service below a URL that has a query of its own. -/
def queried : RestGateway Unit :=
  { base := { scheme := "https", authority := some { host := .domain "a.example" }, path := .segments ["v",""],
              query := some "email_address=x" }, network := () }

/-- Marks of the form's own arrive in a code, in a number and in an address. -/
theorem marks_arrive :
    (∃ r, queried.request (.createAccount "1&pin=2 %3" "+49é") = .ok r ∧
      Tells r [("phone_number","+49é"),("numeric_pin","1&pin=2 %3")]) ∧
    ∃ r, queried.request (.submitEmail (Session.guest ⟨"t",""⟩) "a+b&c@d") = .ok r ∧
      ∃ query, r.url.query = some query ∧ Form.decode query = [("email_address","a+b&c@d")] := by
  obtain ⟨-,-,account,-,-,email,-⟩ := fields_arrive queried queried
  have sent (call : Call) (possible : (queried.request call).toBool = true) : ∃ r, queried.request call = .ok r := by
    cases made : queried.request call with
    | ok r => exact ⟨r,rfl⟩
    | error _ => rw [made] at possible; cases possible
  obtain ⟨r,made⟩ := sent (.createAccount "1&pin=2 %3" "+49é") rfl
  obtain ⟨r',made'⟩ := sent (.submitEmail (Session.guest ⟨"t",""⟩) "a+b&c@d") rfl
  exact ⟨⟨r,made,account _ _ _ made⟩,⟨r',made',email _ _ _ made'⟩⟩

end PhoneSignIn.RestGateway
