import ThorChat.SignIn.Outcomes

/-!
# Failures of the Connection

A request fails for want of a connection where the reachability check finds it or where
Alamofire does, without a response or after its header. The request layer tells the callers in
words, and the callers compare the words.

## Two vocabularies

The callers know three words (`connectivityMessages`). The reachability check says two of them;
`responseData` says others or passes Alamofire's description on. So a failure takes one of the
callers' connectivity branches exactly if it is found before sending
(`connectivity_branch_iff`).
-/

namespace ThorChat.SignIn

open ThorChat.Auth
open ThorChat.Runtime
open ThorChat.Sources

/-! ## The requests of the sign-in screens -/

/-- A request of one of the four methods that share the failure branch, by what it is made
from. -/
inductive Request where
  | LoginApiCalling (countryCode mobileNumber : String)
  | sendOtpValidation (vc : Auth.OTPVerificationVC)
  | REsendOtpValidation
  | DeleteProfilepicMthod (CustomerID : String)

namespace Request

/-- The method that makes the request. -/
def method : Request → Method
  | .LoginApiCalling countryCode mobileNumber => .LoginApiCalling countryCode mobileNumber
  | .sendOtpValidation vc => .sendOtpValidation vc.CustomerID
  | .REsendOtpValidation => .REsendOtpValidation
  | .DeleteProfilepicMthod _ => .DeleteProfilepicMthod

/-- Make the request. -/
def send {σ : Type} (net : Network σ) (defaults : UserDefaults) (request : Request)
    (completion : Completion σ) : σ → Option σ :=
  match request with
  | .LoginApiCalling countryCode mobileNumber =>
    API_LogIN net defaults (Auth.LoginApiCalling.parameters countryCode mobileNumber) completion
  | .sendOtpValidation vc =>
    API_Register net defaults (Auth.sendOtpValidation.parameters vc) completion
  | .REsendOtpValidation =>
    API_Resend_OTP net defaults Auth.REsendOtpValidation.parameters completion
  | .DeleteProfilepicMthod CustomerID =>
    API_Delete_ProfilePic_LIST net defaults (Auth.DeleteProfilepicMthod.parameters CustomerID)
      completion

/-- What the completion closure of the method does when Alamofire delivers this response;
`none` is a trap. -/
def effects (P : Platform) (reachability : Option NetworkReachabilityStatus)
    (response : AFDataResponse) (defaults : UserDefaults) (request : Request) :
    Option (List Effect) :=
  request.send (.delivering P reachability response (List Effect)) defaults
    (fun answer done => (request.method.completion answer).map (done ++ ·)) []

end Request

/-- The methods of the app make these requests. -/
theorem App.methods_send (P : Platform) (reachability : Option NetworkReachabilityStatus)
    (self : Nat) (app : App) :
    (∀ vc : Auth.PhoneNumberVerificationVC,
      let call := app.newCall self (.LoginApiCalling vc.countryCodeLblref vc.mobileNumberTFref)
      app.LoginApiCalling P reachability self vc =
        (Request.LoginApiCalling vc.countryCodeLblref vc.mobileNumberTFref).send
          (network P reachability call) app.defaults (completion call) (app.begin call)) ∧
    (∀ vc : Auth.OTPVerificationVC,
      let call := app.newCall self (.sendOtpValidation vc.CustomerID)
      app.sendOtpValidation P reachability self vc =
        (Request.sendOtpValidation vc).send (network P reachability call) app.defaults
          (completion call) ((app.noteOTPRequest vc).begin call)) ∧
    (∀ vc : Auth.OTPVerificationVC,
      let call := app.newCall self .REsendOtpValidation
      app.REsendOtpValidation P reachability self vc =
        Request.REsendOtpValidation.send (network P reachability call) app.defaults
          (completion call) ((app.noteOTPRequest vc).begin call)) ∧
    (∀ CustomerID, app.defaults.CustomerID = some CustomerID →
      let call := app.newCall self .DeleteProfilepicMthod
      app.DeleteProfilepicMthod P reachability self =
        (Request.DeleteProfilepicMthod CustomerID).send (network P reachability call)
          app.defaults (completion call) (app.begin call)) := by
  refine ⟨fun vc => rfl, fun vc => rfl, fun vc => rfl, fun CustomerID hcustomer => ?_⟩
  have hbegun : (app.begin (app.newCall self .DeleteProfilepicMthod)).defaults.CustomerID =
      some CustomerID := hcustomer
  simp only [App.DeleteProfilepicMthod, hbegun]
  rfl

/-! ## The words of the callers -/

/-- The words the failure branch knows. -/
def connectivityMessages : List String :=
  ["theRequestTimedOut", "notReachable", "check_Your_Internet_Connection"]

/-- What the two connectivity branches do. -/
def connectivityBranches : List (List Effect) :=
  [[.hide, .makeToast "pleaseCheckYourInternetSignal_Is_Too_Low"],
   [.hide, .makeToast "please_Check_Your_Internet"]]

theorem failure_mem_iff {message : String} :
    Auth.failure message ∈ connectivityBranches ↔ message ∈ connectivityMessages := by
  simp only [connectivityMessages, List.mem_cons, List.not_mem_nil, or_false]
  unfold Auth.failure
  -- One case for each branch of the closures
  split_ifs with hslow hoffline
  · simp only [Bool.or_eq_true, decide_eq_true_eq] at hslow
    exact iff_of_true (by decide) (by tauto)
  · exact iff_of_true (by decide) (by tauto)
  · simp only [Bool.or_eq_true, decide_eq_true_eq] at hslow
    exact iff_of_false (by decide) (by tauto)

/-- The four methods share the failure branch. -/
theorem Request.completion_failure (request : Request) (response : JSON) (message : String) :
    request.method.completion ⟨false, response, message⟩ = some (Auth.failure message) := by
  cases request <;> rfl

/-! ## The words of the request layer -/

/-- The reachability check refuses in words the callers know. -/
theorem isNetworkAvailable_words {reachability : Option NetworkReachabilityStatus}
    (h : Refuses reachability) :
    ∃ message ∈ connectivityMessages,
      ∀ {σ : Type} (handler : Bool → String → σ → Option σ),
        isNetworkAvailable reachability handler = handler false message := by
  rcases h with rfl | rfl
  · exact ⟨"check_Your_Internet_Connection", by decide, fun _ => rfl⟩
  · exact ⟨"notReachable", by decide, fun _ => rfl⟩

/-- The device is offline or the request times out: the reachability check finds it, or the
check passes and Alamofire reports an error without a response or after a 200 header. The
description of the error is none of the callers' words. -/
inductive ConnectionFails (reachability : Option NetworkReachabilityStatus)
    (response : AFDataResponse) : Prop where
  | beforeSending (hrefuses : Refuses reachability)
  | withoutResponse (error : AFError) (hpasses : Passes reachability)
      (hstatus : response.statusCode = none) (hresult : response.result = .failure error)
      (hwords : error.localizedDescription ∉ connectivityMessages)
  | afterHeader (error : AFError) (hpasses : Passes reachability)
      (hstatus : response.statusCode = some 200) (hresult : response.result = .failure error)
      (hwords : error.localizedDescription ∉ connectivityMessages)

/-- `responseData` reports an error of Alamofire in words the callers do not know. -/
theorem answerOf_words {response : AFDataResponse} {error : AFError}
    (hstatus : response.statusCode = none ∨ response.statusCode = some 200)
    (hresult : response.result = .failure error)
    (hwords : error.localizedDescription ∉ connectivityMessages) :
    ∃ json message, answerOf response = some ⟨false, json, message⟩ ∧
      message ∉ connectivityMessages := by
  rcases hstatus with hstatus | hstatus
  · refine ⟨.string "Failure", error.localizedDescription, ?_, hwords⟩
    -- No status code: the last arm, which passes the description on
    simp [answerOf, responseData, hstatus, AFDataResponse.error, hresult]
  · -- Whatever the code of the error, the words are one of two
    by_cases htimedOut : error._code = NSURLErrorTimedOut
    · refine ⟨.string "Failure", "Network error", ?_, by decide⟩
      simp [answerOf, responseData, hstatus, hresult, htimedOut]
    · by_cases hoffline : error._code = NSURLErrorNotConnectedToInternet
      · refine ⟨.string "Failure", "Check your internet connection", ?_, by decide⟩
        simp [answerOf, responseData, hstatus, hresult, hoffline, NSURLErrorTimedOut,
          NSURLErrorNotConnectedToInternet]
      · refine ⟨.string "Failure", "Network error", ?_, by decide⟩
        simp [answerOf, responseData, hstatus, hresult, htimedOut, hoffline]

/-! ## Which branch is taken -/

namespace Request

variable {P : Platform} {reachability : Option NetworkReachabilityStatus}
  {response : AFDataResponse} {defaults : UserDefaults} {request : Request}

theorem effects_refused (h : Refuses reachability) :
    ∃ message ∈ connectivityMessages,
      request.effects P reachability response defaults = some (Auth.failure message) := by
  obtain ⟨message, hmessage, hwords⟩ := isNetworkAvailable_words h
  refine ⟨message, hmessage, ?_⟩
  have hcompletion := request.completion_failure (.string "") message
  cases request <;>
    simp [effects, send, API_LogIN, API_Register, API_Resend_OTP, API_Delete_ProfilePic_LIST,
      APIRequest, MultipartFunction.call, Network.delivering, hwords, hcompletion]

/-- Past the reachability check a request traps on its URL, or its response is read. -/
theorem APIRequest_passes {σ : Type} {urlString : String} {Method : HTTPMethod}
    {headers : List (String × String)} {parameter : Parameters} (h : Passes reachability)
    (hM : Switched Method) (completion : Completion σ) :
    (∀ s, APIRequest (.delivering P reachability response σ) urlString Method headers parameter
      completion s = none) ∨
    APIRequest (.delivering P reachability response σ) urlString Method headers parameter
      completion = responseData response completion := by
  by_cases hurl : P.acceptsURL urlString = true
  · have hread : requestProcedure P reachability urlString Method headers parameter response =
        fun _ completion => responseData response completion :=
      requestProcedure_switched h hurl hM
    exact Or.inr (congrFun (congrFun hread σ) completion)
  · obtain ⟨message, hm⟩ := isNetworkAvailable_passes h
    apply Or.inl
    intro s
    simp only [APIRequest, Network.delivering, hm, if_true, hurl]
    rfl

theorem send_passes {σ : Type} (h : Passes reachability) (completion : Completion σ) :
    (∀ s, request.send (.delivering P reachability response σ) defaults completion s = none) ∨
      request.send (.delivering P reachability response σ) defaults completion =
        responseData response completion := by
  cases request with
  | LoginApiCalling countryCode mobileNumber => exact APIRequest_passes h (Or.inl rfl) completion
  | sendOtpValidation vc => exact APIRequest_passes h (Or.inl rfl) completion
  | REsendOtpValidation => exact APIRequest_passes h (Or.inr (Or.inl rfl)) completion
  | DeleteProfilepicMthod CustomerID =>
    have hread : multipartProcedure P reachability .API_Delete_ProfilePic_LIST defaults
        (Auth.DeleteProfilepicMthod.parameters CustomerID) response =
          fun _ completion => responseData response completion :=
      multipartProcedure_encoded h rfl
    exact Or.inr (congrFun (congrFun hread σ) completion)

theorem effects_passes (h : Passes reachability) {json : JSON} {message : String}
    (hanswer : answerOf response = some ⟨false, json, message⟩) :
    request.effects P reachability response defaults = none ∨
      request.effects P reachability response defaults = some (Auth.failure message) := by
  unfold effects
  rcases send_passes h _ with htraps | hread
  · exact Or.inl (htraps [])
  · apply Or.inr
    rw [hread, responseData_eq, hanswer]
    simp only [completion_failure, Option.map_some, List.nil_append]

end Request

/-- **Where connectivity failures are recognised**: a request that fails for want of a connection
takes one of the connectivity branches of its caller exactly if the reachability check found the
failure before sending. -/
theorem connectivity_branch_iff (P : Platform) (defaults : UserDefaults) (request : Request)
    {reachability : Option NetworkReachabilityStatus} {response : AFDataResponse}
    (h : ConnectionFails reachability response) :
    (∃ branch ∈ connectivityBranches,
      request.effects P reachability response defaults = some branch) ↔ Refuses reachability := by
  -- Past the check the words are unknown to the callers, or the request traps
  have hunknown : ∀ error, Passes reachability →
      (response.statusCode = none ∨ response.statusCode = some 200) →
      response.result = .failure error → error.localizedDescription ∉ connectivityMessages →
      ∀ branch ∈ connectivityBranches,
        request.effects P reachability response defaults ≠ some branch := by
    intro error hpasses hstatus hresult hwords branch hbranch heffects
    obtain ⟨json, message, hanswer, hmessage⟩ := answerOf_words hstatus hresult hwords
    rcases Request.effects_passes hpasses hanswer with htraps | hfailure
    · rw [htraps] at heffects
      exact absurd heffects (by simp)
    · rw [hfailure, Option.some.injEq] at heffects
      exact hmessage (failure_mem_iff.mp (heffects ▸ hbranch))
  constructor
  · rintro ⟨branch, hbranch, heffects⟩
    cases h with
    | beforeSending hrefuses => exact hrefuses
    | withoutResponse error hpasses hstatus hresult hwords =>
      exact absurd heffects (hunknown error hpasses (Or.inl hstatus) hresult hwords branch hbranch)
    | afterHeader error hpasses hstatus hresult hwords =>
      exact absurd heffects (hunknown error hpasses (Or.inr hstatus) hresult hwords branch hbranch)
  · intro hrefuses
    obtain ⟨message, hmessage, heffects⟩ := Request.effects_refused hrefuses
    exact ⟨_, failure_mem_iff.mpr hmessage, heffects⟩

/-- A resend on a device that the reachability check knows to be offline. -/
theorem connectivity_branch_offline :
    ∃ branch ∈ connectivityBranches,
      Request.REsendOtpValidation.effects (.sample []) (some .notReachable)
        ⟨none, none, .success .null⟩ .empty = some branch :=
  (connectivity_branch_iff (.sample []) .empty .REsendOtpValidation
    (.beforeSending (Or.inl rfl))).mpr (Or.inl rfl)

/-- The error Alamofire reports when the connection is lost while sending. -/
def connectionLost : AFError :=
  ⟨13, "URLSessionTask failed with error: The Internet connection appears to be offline."⟩

/-- A login whose connection is lost without a response, or after a 200 header, ends in the
generic branch. -/
theorem connectivity_unrecognised :
    ConnectionFails (some (.reachable .cellular)) ⟨none, none, .failure connectionLost⟩ ∧
    ConnectionFails (some (.reachable .cellular)) ⟨some 200, none, .failure connectionLost⟩ ∧
    (Request.LoginApiCalling "+91" "9876543210").effects (.sample [])
      (some (.reachable .cellular)) ⟨none, none, .failure connectionLost⟩ .empty =
        some [.hide, .makeToast "somethingWentWrong"] ∧
    (Request.LoginApiCalling "+91" "9876543210").effects (.sample [])
      (some (.reachable .cellular)) ⟨some 200, none, .failure connectionLost⟩ .empty =
        some [.hide, .makeToast "somethingWentWrong"] ∧
    [.hide, .makeToast "somethingWentWrong"] ∉ connectivityBranches := by
  have hwords : connectionLost.localizedDescription ∉ connectivityMessages := by decide
  refine ⟨?_, ?_, rfl, rfl, by decide⟩
  · exact .withoutResponse connectionLost ⟨.cellular, rfl⟩ rfl rfl hwords
  · exact .afterHeader connectionLost ⟨.cellular, rfl⟩ rfl rfl hwords

end ThorChat.SignIn
