import ThorChat.Auth.PhoneNumberEntry
import ThorChat.SignIn.Answers
import ThorChat.SignIn.Identity
import ThorChat.SignIn.Screens

/-!
# Submitting the Phone Number

What Submit hands Alamofire, and what the answer persists. The validator counts characters and
the delegate of the field counts code units; neither looks at what the characters are, so what
is submitted is a telephone number of the country selected last exactly if the ten characters are
digits (`telephone_submitted_iff`).

Selections and edits are those of the screen alone (`offered_iff`), and a request of Submit is the
only call that waits (`submits_iff`).
-/

namespace ThorChat.SignIn

open ThorChat.Auth
open ThorChat.Library
open ThorChat.Models
open ThorChat.Runtime
open ThorChat.Sources

/-- The event of the app that an input of the phone number screen is. -/
def inputEvent : PhoneNumberVerificationVC.Input → Event
  | .didSelectCountry country => .didSelectCountry country
  | .edit range string => .editMobileNumber range string

/-- Ten decimal digits. -/
def TenDigits (s : String) : Prop := s.length = 10 ∧ ∀ c ∈ s.toList, c.isDigit

instance (s : String) : Decidable (TenDigits s) :=
  have : Decidable (∀ c ∈ s.toList, c.isDigit = true) := List.decidableBAll _ _
  inferInstanceAs (Decidable (_ ∧ _))

/-- The request a login hands Alamofire. -/
def loginRequest (defaults : UserDefaults) (vc : PhoneNumberVerificationVC) : HTTPRequest where
  urlString := URLs.LogIN_API
  method := .post
  headers := jsonHeaders defaults
  parameters := LoginApiCalling.parameters vc.countryCodeLblref vc.mobileNumberTFref
  encoding := .json

namespace App

variable {P : Platform} {app app' : App} {self : Nat} {vc vc' : Auth.PhoneNumberVerificationVC}
  {call : Call} {request : HTTPRequest}

/-! ## The screen on top -/

/-- The phone number screen is on top, and no overlay covers it. -/
structure Offers (app : App) (id : Nat) (vc : Auth.PhoneNumberVerificationVC) : Prop where
  top : app.top = some ⟨id, .PhoneNumberVerificationVC vc⟩
  uncovered : app.windows.covered = false

theorem Offers.shieldedStep {e : Event} (h : Offers app self vc)
    (hstep : app.step P e = app.stepTop P e) :
    app.shieldedStep P e = app.stepPhone P self vc e := by
  rw [App.shieldedStep, h.uncovered, Bool.and_false, if_neg (by decide), hstep]
  simp only [stepTop, h.top]

theorem Offers.setTop (h : Offers app self vc) (vc' : Auth.PhoneNumberVerificationVC) :
    Offers (app.setTop (.PhoneNumberVerificationVC vc')) self vc' := by
  have htop := h.top
  unfold App.top viewControllers at htop
  unfold App.setTop
  split
  · rename_i controller rest hroot
    rw [hroot, List.head?_cons, Option.some.injEq] at htop
    subst htop
    exact ⟨rfl, h.uncovered⟩
  · rename_i hroot
    cases hviews : app.root with
    | DashBoardTabVC =>
      rw [hviews] at htop
      exact absurd htop (by simp)
    | UINavigationController viewControllers =>
      cases viewControllers with
      | nil =>
        rw [hviews] at htop
        exact absurd htop (by simp)
      | cons controller rest => exact absurd hviews (hroot controller rest)

/-- Inputs of the screen are handled by the screen alone. -/
theorem Offers.input (h : Offers app self vc) {input : PhoneNumberVerificationVC.Input}
    (hinput : vc.handle input = some vc') :
    app.shieldedStep P (inputEvent input) =
      some (app.setTop (.PhoneNumberVerificationVC vc')) := by
  cases input with
  | didSelectCountry country =>
    simp only [PhoneNumberVerificationVC.handle, Option.some.injEq] at hinput
    rw [h.shieldedStep rfl, ← hinput]
    rfl
  | edit range string =>
    have hedit : vc.edit range string = some vc' := hinput
    rw [h.shieldedStep rfl, inputEvent, stepPhone, hedit]
    rfl

theorem Offers.inputs (h : Offers app self vc) {inputs : List PhoneNumberVerificationVC.Input}
    (hrun : run PhoneNumberVerificationVC.handle vc inputs = some vc') :
    ∃ app', run (App.shieldedStep P) app (inputs.map inputEvent) = some app' ∧
      Offers app' self vc' := by
  induction inputs generalizing app vc with
  | nil =>
    rw [run_nil, Option.some.injEq] at hrun
    exact ⟨app, rfl, hrun ▸ h⟩
  | cons input inputs ih =>
    obtain ⟨next, hnext, hrest⟩ := run_cons_eq_some.mp hrun
    rw [List.map_cons, run_cons (h.input hnext)]
    exact ih (h.setTop next) hrest

/-- Whatever the screen can hold after selections and edits, the app can offer for Submit. -/
theorem reachable_of_inputs (P : Platform) {selectedCountry : Country}
    {inputs : List PhoneNumberVerificationVC.Input}
    (hrun : run PhoneNumberVerificationVC.handle (.viewDidLoad selectedCountry) inputs =
      some vc) :
    ∃ app self, Reachable (App.shieldedStep P) initial app ∧ Offers app self vc := by
  -- The launch screen opens the phone number screen as the third object
  have hopen : ∃ app self, App.shieldedStep P initial (.agreeContinueBtnref selectedCountry) =
      some app ∧ Offers app self (.viewDidLoad selectedCountry) := ⟨_, 3, rfl, rfl, rfl⟩
  obtain ⟨app, self, hstep, hoffers⟩ := hopen
  obtain ⟨app', hrun', hoffers'⟩ := hoffers.inputs (P := P) hrun
  refine ⟨app', self, ⟨.agreeContinueBtnref selectedCountry :: inputs.map inputEvent, ?_⟩,
    hoffers'⟩
  rw [run_cons hstep, hrun']

/-- What the app can offer for Submit is what selections and edits lead to. -/
theorem offered_iff (P : Platform) : (∃ app self, Reachable (App.shieldedStep P) initial app ∧
      Offers app self vc) ↔
    ∃ selectedCountry inputs,
      run PhoneNumberVerificationVC.handle (.viewDidLoad selectedCountry) inputs = some vc := by
  constructor
  · rintro ⟨app, self, hreachable, hoffers⟩
    exact phone_screens_entered hreachable (List.mem_of_mem_head? hoffers.top)
  · rintro ⟨selectedCountry, inputs, hrun⟩
    exact reachable_of_inputs P hrun

/-- While a screen is offered no call waits: its overlay would take the touch. -/
theorem Offers.calls (h : Offers app self vc)
    (hreachable : Reachable (App.shieldedStep P) initial app) : app.calls = [] := by
  have hagreement : Agreement app :=
    hreachable.invariant agreement_initial fun _ _ _ hI hstep => agreement_shieldedStep hI hstep
  have hroot : app.root ≠ .DashBoardTabVC := by
    intro hdashboard
    have htop := h.top
    simp [App.top, viewControllers, hdashboard] at htop
  apply List.eq_nil_iff_forall_not_mem.mpr
  intro call hcall
  obtain ⟨o, ho, -, hwindow⟩ := hagreement.covered hroot call hcall
  have := SupportFrameWorks.Windows.covered_of_mem ho hwindow
  rw [h.uncovered] at this
  exact absurd this (by decide)

/-! ## What Submit sends -/

/-- Submit hands Alamofire this request, for a call of its own. -/
def Submits (P : Platform) (app : App) (call : Call) (request : HTTPRequest) : Prop :=
  ∃ reachability app', app.shieldedStep P (.SubmitMobileNumber reachability) = some app' ∧
    call ∈ app'.calls ∧ call ∉ app.calls ∧ call.request = some request

/-- With the network reachable a login is sent. -/
theorem LoginApiCalling_passes (haccepts : P.acceptsURL URLs.LogIN_API)
    (connection : ConnectionType) :
    app.LoginApiCalling P (some (.reachable connection)) self vc =
      some ((app.begin (app.newCall self
        (.LoginApiCalling vc.countryCodeLblref vc.mobileNumberTFref))).sending app.nextId
          (loginRequest app.defaults vc)) := by
  cases connection <;>
    simp [App.LoginApiCalling, API_LogIN, APIRequest, isNetworkAvailable, network, haccepts,
      HTTPMethod.post, loginRequest, newCall]

/-- Otherwise no call waits for a response. -/
theorem LoginApiCalling_calls (hcalls : app.calls = [])
    {reachability : Option NetworkReachabilityStatus} (hstopped : ¬ Passes reachability)
    (h : app.LoginApiCalling P reachability self vc = some app') :
    ∀ c ∈ app'.calls, c.request = none := by
  rcases reachability_cases reachability with rfl | hrefuses | hpasses
  · -- Without a reachability manager the call waits, but without a request
    obtain rfl : app.begin (app.newCall self
        (.LoginApiCalling vc.countryCodeLblref vc.mobileNumberTFref)) = app' := by
      simpa [App.LoginApiCalling, API_LogIN, APIRequest, network] using h
    intro c hc
    rw [begin, hcalls, List.mem_singleton] at hc
    rw [hc]
    rfl
  · -- A call that is refused does not wait any longer
    obtain ⟨message, hmessage⟩ := isNetworkAvailable_refuses hrefuses
    have hm : Method.LoginApiCalling vc.countryCodeLblref vc.mobileNumberTFref ≠
        .EditUserProfileMethod := by simp
    obtain ⟨notices, hn, hnotice⟩ := Method.completion_refused hm message
    simp only [App.LoginApiCalling, API_LogIN, APIRequest, network, hmessage, Bool.false_eq_true,
      if_false, completion, newCall, hn, Option.map_some, Option.some.injEq,
      performAll_hide_notices hnotice] at h
    intro c hc
    rw [← h, perform, mem_settle, begin, hcalls, List.mem_singleton] at hc
    exact absurd (by rw [hc.1]) hc.2
  · exact absurd hpasses hstopped

/-- What Submit sends, and when. -/
theorem submits_iff (haccepts : P.acceptsURL URLs.LogIN_API)
    (hreachable : Reachable (App.shieldedStep P) initial app) (h : Offers app self vc) :
    Submits P app call request ↔
      P.count vc.mobileNumberTFref = 10 ∧ request = loginRequest app.defaults vc ∧
        call = { app.newCall self
          (.LoginApiCalling vc.countryCodeLblref vc.mobileNumberTFref) with
            request := some request } := by
  have hcalls := h.calls hreachable
  constructor
  · rintro ⟨reachability, app', hstep, hcall, -, hrequest⟩
    rw [h.shieldedStep rfl, stepPhone, PhoneNumberVerificationVC.Submitbtnref] at hstep
    cases hvalid : vc.validateSignupCredentials P with
    | invalid message =>
      -- An alert starts no call
      simp only [hvalid, Option.some.injEq] at hstep
      rw [← hstep, hcalls] at hcall
      exact absurd hcall List.not_mem_nil
    | valid =>
      simp only [hvalid] at hstep
      refine ⟨PhoneNumberVerificationVC.validateSignupCredentials_iff.mp hvalid, ?_⟩
      by_cases hpasses : Passes reachability
      · obtain ⟨connection, rfl⟩ := hpasses
        rw [LoginApiCalling_passes haccepts, Option.some.injEq] at hstep
        rw [← hstep, sending, begin, hcalls, List.map_singleton, List.mem_singleton] at hcall
        simp only [newCall, if_true] at hcall
        subst hcall
        rw [Option.some.injEq] at hrequest
        exact ⟨hrequest.symm, by rw [hrequest, newCall]⟩
      · have hnone := LoginApiCalling_calls hcalls hpasses hstep call hcall
        rw [hnone] at hrequest
        exact absurd hrequest (by simp)
  · rintro ⟨hcount, rfl, rfl⟩
    have hvalid := PhoneNumberVerificationVC.validateSignupCredentials_iff.mpr hcount
    have hstep : app.shieldedStep P (.SubmitMobileNumber (some (.reachable .cellular))) =
        app.LoginApiCalling P (some (.reachable .cellular)) self vc := by
      rw [h.shieldedStep rfl, stepPhone, PhoneNumberVerificationVC.Submitbtnref, hvalid]
    refine ⟨_, _, hstep.trans (LoginApiCalling_passes haccepts .cellular), ?_, ?_, rfl⟩
    · rw [sending, begin, hcalls, List.map_singleton, List.mem_singleton]
      simp [newCall]
    · rw [hcalls]
      exact List.not_mem_nil

/-! ## Telephone numbers -/

/-- The request submits the ten digits of the field after the code of the selected country, and
this is the number that an answer with a customer persists. -/
structure SubmitsTelephone (P : Platform) (selected : Country)
    (vc : Auth.PhoneNumberVerificationVC) (call : Call) (request : HTTPRequest) : Prop where
  digits : TenDigits vc.mobileNumberTFref
  submitted : request.parameters.lookup "customer_mobile_number" =
    some (selected.phoneCode ++ vc.mobileNumberTFref)
  persisted : ∀ app app' response json customer_id, Accepted response json →
    (LoginModel.map json).status = 200 → stringMember json "customer_id" = some customer_id →
      handler P call response app = some app' →
      app'.defaults.Mobilenumber = some (selected.phoneCode ++ vc.mobileNumberTFref)

/-- The login persists the number it was started for. -/
theorem login_persists {countryCode mobileNumber : String} {json : Dictionary}
    {response : AFDataResponse} (hm : call.method = .LoginApiCalling countryCode mobileNumber)
    (ha : Accepted response json) (h200 : (LoginModel.map json).status = 200)
    (hh : handler P call response app = some app') :
    app'.defaults.Mobilenumber = some (countryCode ++ mobileNumber) := by
  rw [login_accepted h200 hm ha, Option.some.injEq] at hh
  rw [← hh]
  -- The push does not touch what is persisted
  simp only [performAll, List.foldl_cons, List.foldl_nil, perform, push]
  split <;> rfl

theorem submitsTelephone_of_digits {selected : Country}
    (hcode : vc.countryCodeLblref = selected.phoneCode)
    (hdigits : TenDigits vc.mobileNumberTFref) :
    SubmitsTelephone P selected vc
      { app.newCall self (.LoginApiCalling vc.countryCodeLblref vc.mobileNumberTFref) with
        request := some (loginRequest app.defaults vc) }
      (loginRequest app.defaults vc) := by
  apply SubmitsTelephone.mk
  case digits => exact hdigits
  case submitted =>
    rw [← hcode]
    rfl
  case persisted =>
    intro app app' response json customer_id ha h200 _ hh
    rw [← hcode]
    exact login_persists rfl ha h200 hh

/-- A text of fixed length is told apart from what stands before it. -/
theorem append_inj_of_length {code code' number number' : String}
    (hlength : number.length = number'.length) (h : code ++ number = code' ++ number') :
    code = code' ∧ number = number' := by
  have hlists : code.toList ++ number.toList = code'.toList ++ number'.toList := by
    rw [← String.toList_append, ← String.toList_append, h]
  obtain ⟨hcode, hnumber⟩ := List.append_inj' hlists
    (by rwa [String.length_toList, String.length_toList])
  exact ⟨String.toList_injective hcode, String.toList_injective hnumber⟩

/-- Only telephone numbers of the selected countries are submitted from the two screens, and the
string that is submitted tells the code of the country and the number. -/
structure OnlyTelephones (P : Platform) (app₁ app₂ : App) (selected₁ selected₂ : Country)
    (vc₁ vc₂ : Auth.PhoneNumberVerificationVC) : Prop where
  first : ∀ call request, Submits P app₁ call request →
    SubmitsTelephone P selected₁ vc₁ call request
  second : ∀ call request, Submits P app₂ call request →
    SubmitsTelephone P selected₂ vc₂ call request
  injective : ∀ call₁ request₁ call₂ request₂, Submits P app₁ call₁ request₁ →
    Submits P app₂ call₂ request₂ →
    request₁.parameters.lookup "customer_mobile_number" =
      request₂.parameters.lookup "customer_mobile_number" →
    selected₁.phoneCode = selected₂.phoneCode ∧ vc₁.mobileNumberTFref = vc₂.mobileNumberTFref

section TwoScreens

variable {app₁ app₂ : App} {self₁ self₂ : Nat} {vc₁ vc₂ : Auth.PhoneNumberVerificationVC}
  {selectedCountry selectedCountry₁ selectedCountry₂ : Country}
  {inputs inputs₁ inputs₂ : List PhoneNumberVerificationVC.Input}

/-- If ten characters are always ten digits, Submit submits a telephone number of the country
selected last. -/
theorem telephone_of_digits (haccepts : P.acceptsURL URLs.LogIN_API)
    (hinputs : run PhoneNumberVerificationVC.handle (.viewDidLoad selectedCountry) inputs =
      some vc)
    (hreachable : Reachable (App.shieldedStep P) initial app) (h : Offers app self vc)
    (hdigits : P.count vc.mobileNumberTFref = 10 → TenDigits vc.mobileNumberTFref)
    (hsubmits : Submits P app call request) :
    SubmitsTelephone P (PhoneNumberVerificationVC.lastSelected selectedCountry inputs) vc call
      request := by
  obtain ⟨hcount, rfl, rfl⟩ := (submits_iff haccepts hreachable h).mp hsubmits
  have hloaded : (PhoneNumberVerificationVC.viewDidLoad selectedCountry).countryCodeLblref =
      selectedCountry.phoneCode := rfl
  exact submitsTelephone_of_digits
    (PhoneNumberVerificationVC.run_countryCodeLblref hloaded hinputs) (hdigits hcount)

/-- If what Submit submits are telephone numbers, ten characters are ten digits. -/
theorem digits_of_telephone {selected : Country} (haccepts : P.acceptsURL URLs.LogIN_API)
    (hreachable : Reachable (App.shieldedStep P) initial app) (h : Offers app self vc)
    (htelephone : ∀ call request, Submits P app call request →
      SubmitsTelephone P selected vc call request)
    (hcount : P.count vc.mobileNumberTFref = 10) : TenDigits vc.mobileNumberTFref :=
  (htelephone _ _ ((submits_iff haccepts hreachable h).mpr ⟨hcount, rfl, rfl⟩)).digits

/-- **When only telephone numbers are submitted**: from two screens that selections and edits led
to, exactly if in neither field ten characters are anything but ten decimal digits. The country
is the one selected last. -/
theorem telephone_submitted_iff (haccepts : P.acceptsURL URLs.LogIN_API)
    (hinputs₁ : run PhoneNumberVerificationVC.handle (.viewDidLoad selectedCountry₁) inputs₁ =
      some vc₁)
    (hreachable₁ : Reachable (App.shieldedStep P) initial app₁) (h₁ : Offers app₁ self₁ vc₁)
    (hinputs₂ : run PhoneNumberVerificationVC.handle (.viewDidLoad selectedCountry₂) inputs₂ =
      some vc₂)
    (hreachable₂ : Reachable (App.shieldedStep P) initial app₂) (h₂ : Offers app₂ self₂ vc₂) :
    OnlyTelephones P app₁ app₂
        (PhoneNumberVerificationVC.lastSelected selectedCountry₁ inputs₁)
        (PhoneNumberVerificationVC.lastSelected selectedCountry₂ inputs₂) vc₁ vc₂ ↔
      (P.count vc₁.mobileNumberTFref = 10 → TenDigits vc₁.mobileNumberTFref) ∧
      (P.count vc₂.mobileNumberTFref = 10 → TenDigits vc₂.mobileNumberTFref) := by
  constructor
  · intro h
    exact ⟨digits_of_telephone haccepts hreachable₁ h₁ h.first,
      digits_of_telephone haccepts hreachable₂ h₂ h.second⟩
  · rintro ⟨hdigits₁, hdigits₂⟩
    have hfirst : ∀ call request, Submits P app₁ call request →
        SubmitsTelephone P (PhoneNumberVerificationVC.lastSelected selectedCountry₁ inputs₁) vc₁
          call request :=
      fun _ _ => telephone_of_digits haccepts hinputs₁ hreachable₁ h₁ hdigits₁
    have hsecond : ∀ call request, Submits P app₂ call request →
        SubmitsTelephone P (PhoneNumberVerificationVC.lastSelected selectedCountry₂ inputs₂) vc₂
          call request :=
      fun _ _ => telephone_of_digits haccepts hinputs₂ hreachable₂ h₂ hdigits₂
    apply OnlyTelephones.mk
    case first => exact hfirst
    case second => exact hsecond
    case injective =>
      intro call₁ request₁ call₂ request₂ hsubmits₁ hsubmits₂ hsame
      have htelephone₁ := hfirst call₁ request₁ hsubmits₁
      have htelephone₂ := hsecond call₂ request₂ hsubmits₂
      rw [htelephone₁.submitted, htelephone₂.submitted, Option.some.injEq] at hsame
      -- Both numbers have ten digits, so the codes end at the same place
      exact append_inj_of_length
        (htelephone₁.digits.1.trans htelephone₂.digits.1.symm) hsame

end TwoScreens

theorem acceptsURL_LogIN_API : (Platform.sample []).acceptsURL URLs.LogIN_API := by decide

/-- A number is submitted that is typed while another country is selected. -/
theorem telephone_submitted_typed :
    ∃ app self, Reachable (App.shieldedStep (.sample [])) initial app ∧
      Offers app self ⟨"Nepal", "+977", "9876543210"⟩ ∧
      (∃ call request, Submits (.sample []) app call request ∧
        request.parameters.lookup "customer_mobile_number" = some "+9779876543210") ∧
      OnlyTelephones (.sample []) app app ⟨"Nepal", "+977"⟩ ⟨"Nepal", "+977"⟩
        ⟨"Nepal", "+977", "9876543210"⟩ ⟨"Nepal", "+977", "9876543210"⟩ := by
  have hinputs : run PhoneNumberVerificationVC.handle (.viewDidLoad ⟨"India", "+91"⟩)
      [.edit ⟨0, 0⟩ "987654321", .didSelectCountry ⟨"Nepal", "+977"⟩, .edit ⟨9, 0⟩ "0"] =
      some ⟨"Nepal", "+977", "9876543210"⟩ := rfl
  obtain ⟨app, self, hreachable, hoffers⟩ := reachable_of_inputs (.sample []) hinputs
  have hsubmits := (submits_iff acceptsURL_LogIN_API hreachable hoffers).mpr ⟨rfl, rfl, rfl⟩
  exact ⟨app, self, hreachable, hoffers, ⟨_, _, hsubmits, rfl⟩,
    (telephone_submitted_iff acceptsURL_LogIN_API hinputs hreachable hoffers hinputs hreachable
      hoffers).mpr ⟨fun _ => by decide, fun _ => by decide⟩⟩

/-- Ten letters are submitted like a number. -/
theorem letters_submitted :
    ∃ app self, Reachable (App.shieldedStep (.sample [])) initial app ∧
      Offers app self ⟨"India", "+91", "abcdefghij"⟩ ∧
      (∃ call request, Submits (.sample []) app call request ∧
        request.parameters.lookup "customer_mobile_number" = some "+91abcdefghij") ∧
      ¬ OnlyTelephones (.sample []) app app ⟨"India", "+91"⟩ ⟨"India", "+91"⟩
        ⟨"India", "+91", "abcdefghij"⟩ ⟨"India", "+91", "abcdefghij"⟩ := by
  have hinputs : run PhoneNumberVerificationVC.handle (.viewDidLoad ⟨"India", "+91"⟩)
      [.edit ⟨0, 0⟩ "abcdefghij"] = some ⟨"India", "+91", "abcdefghij"⟩ := rfl
  obtain ⟨app, self, hreachable, hoffers⟩ := reachable_of_inputs (.sample []) hinputs
  have hsubmits := (submits_iff acceptsURL_LogIN_API hreachable hoffers).mpr ⟨rfl, rfl, rfl⟩
  refine ⟨app, self, hreachable, hoffers, ⟨_, _, hsubmits, rfl⟩, fun h => ?_⟩
  exact absurd (h.first _ _ hsubmits).digits (by decide)

end App

end ThorChat.SignIn
