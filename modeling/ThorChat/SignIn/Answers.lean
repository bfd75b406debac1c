import ThorChat.SignIn.Navigation
import ThorChat.SignIn.Outcomes

/-!
# What an Answer Must Carry

Which bodies the handlers can use without trapping (`usable_body_iff`), and which ones a
customer or credentials can be taken from (`no_invented_identity_iff`).
-/

namespace ThorChat.SignIn

open ThorChat.Auth
open ThorChat.Models
open ThorChat.Runtime
open ThorChat.Sources

/-! ## Bodies that do not trap -/

/-- A success is a 200 with a JSON object or has another status than 200 and 301. -/
def UsableBody (response : AFDataResponse) : Prop :=
  ∀ value, response.result = .success value →
    response.statusCode ≠ some 301 ∧ (response.statusCode = some 200 → value.isObject = true)

/-- The data of a 200 decodes to a JSON object. -/
def UsableData (P : Platform) (response : AFDataResponse) : Prop :=
  response.statusCode = some 200 → ∀ data, response.data = some data →
    (P.jsonOfData data).isObject = true

/-- What the completion closures rely on: a success answer is a 200 and carries the object the
server's body decodes to. -/
def Truthful (response : AFDataResponse) : Prop :=
  ∀ answer, answerOf response = some answer → answer.status = true →
    response.statusCode = some 200 ∧
      ∃ json, answer.response = .object json ∧ response.result = .success (.object json)

theorem truthful_iff {response : AFDataResponse} : Truthful response ↔ UsableBody response := by
  constructor
  · intro h value hr
    constructor
    · intro h301
      obtain ⟨h200, -⟩ := h _ (answerOf_moved h301 hr) rfl
      rw [h301] at h200
      exact absurd h200 (by decide)
    · intro h200
      obtain ⟨-, json, hobject, -⟩ := h _ (answerOf_ok h200 hr) rfl
      exact JSON.isObject_iff.mpr ⟨json, hobject⟩
  · intro h answer ha ht
    rcases answerOf_true ha ht with ⟨h200, hr⟩ | ⟨h301, ⟨value, hr⟩, -⟩
    · obtain ⟨json, hobject⟩ := JSON.isObject_iff.mp ((h _ hr).2 h200)
      exact ⟨h200, json, hobject, hobject ▸ hr⟩
    · exact absurd h301 (h value hr).1

/-- The completion closures trap exactly on a success without an object. -/
theorem Method.completion_eq_none {method : Method} (hm : method ≠ .EditUserProfileMethod)
    {answer : Answer} :
    method.completion answer = none ↔
      answer.status = true ∧ answer.response.isObject = false := by
  cases hs : answer.status with
  | false =>
    cases method with
    | EditUserProfileMethod => exact absurd rfl hm
    | _ => simp [Method.completion, Auth.LoginApiCalling.completion,
        Auth.sendOtpValidation.completion, Auth.REsendOtpValidation.completion,
        Auth.DeleteProfilepicMthod.completion, hs]
  | true =>
    cases method with
    | EditUserProfileMethod => exact absurd rfl hm
    | _ => simp [Method.completion, Auth.LoginApiCalling.completion,
        Auth.sendOtpValidation.completion, Auth.REsendOtpValidation.completion,
        Auth.DeleteProfilepicMthod.completion, hs, JSON.dictionaryObject_eq_none]

theorem Method.effects_ne_none_iff {P : Platform} {response : AFDataResponse} {method : Method}
    (hm : method ≠ .EditUserProfileMethod) :
    method.effects P response ≠ none ↔ UsableBody response := by
  rw [← truthful_iff]
  cases ha : answerOf response with
  | none =>
    rw [Method.effects_dropped hm ha]
    simp [Truthful, ha]
  | some answer =>
    rw [Method.effects_answered hm ha]
    simp only [ne_eq, Method.completion_eq_none hm, not_and, Bool.not_eq_false]
    constructor
    · intro h answer' ha' ht
      rw [ha, Option.some.injEq] at ha'
      subst ha'
      obtain ⟨json, hobject⟩ := JSON.isObject_iff.mp (h ht)
      have haccepted : Accepted response json := (accepted_iff ha).mpr ⟨ht, hobject⟩
      exact ⟨haccepted.1, json, hobject, haccepted.2⟩
    · intro h ht
      obtain ⟨-, json, hobject, -⟩ := h answer ha ht
      exact JSON.isObject_iff.mpr ⟨json, hobject⟩

theorem editUserProfile_ne_none_iff {P : Platform} {response : AFDataResponse} :
    Auth.EditUserProfileMethod.handler P response ≠ none ↔ UsableData P response := by
  unfold Auth.EditUserProfileMethod.handler UsableData
  by_cases hs : response.statusCode = some 200
  · cases hd : response.data with
    | none => simp [hs]
    | some data => simp [hs, JSON.dictionaryObject_eq_none]
  · simp [hs]

namespace App

/-- A handler traps exactly when its effects cannot be found. -/
theorem handler_ne_none_iff {P : Platform} {call : Call} {response : AFDataResponse} {app : App} :
    handler P call response app ≠ none ↔ call.method.effects P response ≠ none := by
  by_cases hm : call.method = .EditUserProfileMethod
  · simp [handler, Method.effects, hm]
  · rw [handler_eq_responseData hm, responseData_eq]
    cases ha : answerOf response with
    | none =>
      rw [Method.effects_dropped hm ha]
      simp
    | some answer =>
      rw [Method.effects_answered hm ha]
      simp [completion]

/-- **When success means a usable body**: a success is a 200 with a JSON object, or has another
status than 200 and 301; and, for the profile update, the data of a 200 decodes to a JSON
object. Under these conditions, and no others, completions are told the truth and no handler
traps. -/
theorem usable_body_iff (P : Platform) (response : AFDataResponse) :
    (Truthful response ↔ UsableBody response) ∧
    (∀ call app, call.method ≠ .EditUserProfileMethod →
      (handler P call response app ≠ none ↔ UsableBody response)) ∧
    (∀ call app, call.method = .EditUserProfileMethod →
      (handler P call response app ≠ none ↔ UsableData P response)) := by
  refine ⟨truthful_iff, fun call app hm => ?_, fun call app hm => ?_⟩
  · rw [handler_ne_none_iff, Method.effects_ne_none_iff hm]
  · rw [handler_ne_none_iff, hm]
    exact editUserProfile_ne_none_iff

/-- A call of each kind of handler that traps: a login answered 200 with an array, a resend
answered 301, and a profile update answered 200 with data that does not parse. -/
theorem handler_traps :
    ¬ Truthful ⟨some 200, none, .success (.array [])⟩ ∧
    handler (.sample []) ⟨3, 1, .LoginApiCalling "+1" "2025550100", none⟩
      ⟨some 200, none, .success (.array [])⟩ initial = none ∧
    handler (.sample []) ⟨3, 1, .REsendOtpValidation, none⟩
      ⟨some 301, none, .success (.object [])⟩ initial = none ∧
    handler (.sample []) ⟨3, 1, .EditUserProfileMethod, none⟩
      ⟨some 200, some [60], .success .null⟩ initial = none := by
  refine ⟨?_, rfl, rfl, rfl⟩
  rw [truthful_iff]
  intro h
  exact absurd ((h _ rfl).2 rfl) (by decide)

/-! ## Customers and credentials -/

/-- The login wrote the customer the object carries and pushed nothing but a one-time-code
screen for it; without such a customer nothing changed. -/
def KeepsIdentity (json : Dictionary) (app app' : App) : Prop :=
  match stringMember json "customer_id" with
  | some customer_id =>
    app'.defaults.CustomerID = some customer_id ∧
      (app'.root = app.root ∨ ∃ id vc, vc.CustomerID = customer_id ∧
        app'.root = .UINavigationController (⟨id, .OTPVerificationVC vc⟩ :: app.viewControllers))
  | none => app'.defaults = app.defaults ∧ app'.root = app.root

/-- The verification wrote the credentials the object carries and marked the user as logged in;
without both of them nothing changed. -/
def KeepsCredentials (json : Dictionary) (app app' : App) : Prop :=
  match stringMember json "auth_key", stringMember json "client_service" with
  | some auth_key, some client_service =>
    app'.defaults.auth_key = some auth_key ∧
      app'.defaults.client_service = some client_service ∧
      app'.defaults.Str_Global_IsUserLogIned = some true
  | _, _ => app'.defaults = app.defaults ∧ app'.root = app.root

section Accepted

variable {P : Platform} {json : Dictionary} {response : AFDataResponse} {call : Call}
  {app app' : App}

theorem login_accepted {countryCode mobileNumber : String}
    (h200 : (LoginModel.map json).status = 200)
    (hm : call.method = .LoginApiCalling countryCode mobileNumber) (ha : Accepted response json) :
    handler P call response app = some ((app.settle call.bar).performAll call
      [.set (.Mobilenumber (countryCode ++ mobileNumber)),
        .set (.CustomerID (LoginModel.map json).customer_id),
        .pushOTPVerificationVC (countryCode ++ " " ++ mobileNumber)
          (LoginModel.map json).customer_id,
        .hide]) := by
  unfold handler
  simp only [hm, responseData_eq, answerOf_ok ha.1 ha.2, completion, Method.completion,
    Auth.LoginApiCalling.completion, if_true, JSON.dictionaryObject, Option.map_some, h200]

theorem verification_accepted {customer_id : String}
    (h200 : (RegisterModel.map json).status = 200)
    (hm : call.method = .sendOtpValidation customer_id) (ha : Accepted response json) :
    handler P call response app = some ((app.settle call.bar).performAll call
      [.hide,
        .set (.auth_key (RegisterModel.map json).auth_key),
        .set (.client_service (RegisterModel.map json).client_service),
        .set (.Str_Global_IsUserLogIned true),
        .pushEditMyProfileVC]) := by
  unfold handler
  simp only [hm, responseData_eq, answerOf_ok ha.1 ha.2, completion, Method.completion,
    Auth.sendOtpValidation.completion, if_true, JSON.dictionaryObject, Option.map_some, h200]

/-- A push puts one view controller on top of the stack, or changes nothing. -/
theorem keepsIdentity_login {customer_id : String}
    (hs : stringMember json "customer_id" = some customer_id) {mobileNumber number : String} :
    KeepsIdentity json app ((app.settle call.bar).performAll call
      [.set (.Mobilenumber number),
        .set (.CustomerID (LoginModel.map json).customer_id),
        .pushOTPVerificationVC mobileNumber (LoginModel.map json).customer_id,
        .hide]) := by
  -- A string under the key replaces the default of the model
  have hid : (LoginModel.map json).customer_id = customer_id := mapString_of_stringMember hs "0"
  rw [hid]
  simp only [KeepsIdentity, hs, performAll, List.foldl_cons, List.foldl_nil, perform]
  constructor
  · unfold push
    split <;> rfl
  · rcases push_root { (app.settle call.bar) with
        defaults := ((app.settle call.bar).defaults.set (.Mobilenumber number)).set
          (.CustomerID customer_id) } call.self
        (.OTPVerificationVC (.viewDidLoad mobileNumber customer_id)) with hr | hr
    · exact Or.inl hr
    · exact Or.inr ⟨app.nextId, _, OTPVerificationVC.viewDidLoad_CustomerID _ _, hr⟩

theorem keepsCredentials_verification {auth_key client_service : String}
    (ha : stringMember json "auth_key" = some auth_key)
    (hc : stringMember json "client_service" = some client_service) :
    KeepsCredentials json app ((app.settle call.bar).performAll call
      [.hide,
        .set (.auth_key (RegisterModel.map json).auth_key),
        .set (.client_service (RegisterModel.map json).client_service),
        .set (.Str_Global_IsUserLogIned true),
        .pushEditMyProfileVC]) := by
  have hauth : (RegisterModel.map json).auth_key = auth_key := mapString_of_stringMember ha ""
  have hclient : (RegisterModel.map json).client_service = client_service :=
    mapString_of_stringMember hc ""
  rw [hauth, hclient]
  simp only [KeepsCredentials, ha, hc, performAll, List.foldl_cons, List.foldl_nil, perform]
  unfold push
  split <;> exact ⟨rfl, rfl, rfl⟩

/-- Where the first screen of the app receives the answer, the stack grows. -/
theorem push_initial_ne {screen : Screen} : (initial.push 1 screen).root ≠ initial.root := by
  intro h
  have hsame : (initial.push 1 screen).viewControllers = initial.viewControllers := by
    simp only [viewControllers, h]
  have hlength : (3 : Nat) = 2 := congrArg List.length hsame
  exact absurd hlength (by decide)

end Accepted

/-- **When no identity and no credentials are invented**: for a body with status 200, exactly if
it carries a string `customer_id` (for a login), or strings `auth_key` and `client_service` (for
a verification). Of any other body the handlers persist the models' defaults. -/
theorem no_invented_identity_iff (P : Platform) (json : Dictionary) :
    ((LoginModel.map json).status = 200 →
      ((∀ app call countryCode mobileNumber response app',
          call.method = .LoginApiCalling countryCode mobileNumber → Accepted response json →
          handler P call response app = some app' → KeepsIdentity json app app') ↔
        ∃ customer_id, stringMember json "customer_id" = some customer_id)) ∧
    ((RegisterModel.map json).status = 200 →
      ((∀ app call customer_id response app',
          call.method = .sendOtpValidation customer_id → Accepted response json →
          handler P call response app = some app' → KeepsCredentials json app app') ↔
        ∃ auth_key client_service, stringMember json "auth_key" = some auth_key ∧
          stringMember json "client_service" = some client_service)) := by
  constructor
  · intro h200
    constructor
    · intro h
      cases hs : stringMember json "customer_id" with
      | some customer_id => exact ⟨customer_id, rfl⟩
      | none =>
        -- Without a customer the first screen of the app shows the difference
        have hkeeps := h initial ⟨3, 1, .LoginApiCalling "" "", none⟩ "" ""
          ⟨some 200, none, .success (.object json)⟩ _ rfl ⟨rfl, rfl⟩
          (login_accepted h200 rfl ⟨rfl, rfl⟩)
        simp only [KeepsIdentity, hs] at hkeeps
        exact absurd hkeeps.2 push_initial_ne
    · rintro ⟨customer_id, hs⟩ app call countryCode mobileNumber response app' hm ha hh
      rw [login_accepted h200 hm ha, Option.some.injEq] at hh
      exact hh ▸ keepsIdentity_login hs
  · intro h200
    constructor
    · intro h
      -- Without credentials the first screen of the app shows the difference
      have hkeeps := h initial ⟨3, 1, .sendOtpValidation "", none⟩ ""
        ⟨some 200, none, .success (.object json)⟩ _ rfl ⟨rfl, rfl⟩
        (verification_accepted h200 rfl ⟨rfl, rfl⟩)
      cases ha : stringMember json "auth_key" with
      | none =>
        simp only [KeepsCredentials, ha] at hkeeps
        exact absurd hkeeps.2 push_initial_ne
      | some auth_key =>
        cases hc : stringMember json "client_service" with
        | none =>
          simp only [KeepsCredentials, ha, hc] at hkeeps
          exact absurd hkeeps.2 push_initial_ne
        | some client_service => exact ⟨auth_key, client_service, rfl, rfl⟩
    · rintro ⟨auth_key, client_service, ha, hc⟩ app call customer_id response app' hm hacc hh
      rw [verification_accepted h200 hm hacc, Option.some.injEq] at hh
      exact hh ▸ keepsCredentials_verification ha hc

/-- A login answered with a numeric customer persists the customer "0"; a verification answered
without credentials persists empty ones and marks the user as logged in. -/
theorem identity_invented :
    ∃ login verification,
      handler (.sample []) ⟨3, 1, .LoginApiCalling "+1" "2025550100", none⟩
        ⟨some 200, none, .success (.object
          [("status", .number ⟨200, 0⟩), ("customer_id", .number ⟨7, 0⟩)])⟩ initial =
        some login ∧
      handler (.sample []) ⟨3, 1, .sendOtpValidation "7", none⟩
        ⟨some 200, none, .success (.object [("status", .number ⟨200, 0⟩)])⟩ initial =
        some verification ∧
      login.defaults.CustomerID = some "0" ∧
      login.viewControllers.length = initial.viewControllers.length + 1 ∧
      verification.defaults.auth_key = some "" ∧
      verification.defaults.client_service = some "" ∧
      verification.defaults.isUserLogIned = true :=
  ⟨_, _, rfl, rfl, rfl, rfl, rfl, rfl, rfl⟩

end App

end ThorChat.SignIn
