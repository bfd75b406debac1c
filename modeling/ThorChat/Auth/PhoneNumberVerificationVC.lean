import ThorChat.Auth.Effect
import ThorChat.Library.Utf16
import ThorChat.Models.LoginModel
import ThorChat.Sources.WrappingAPIs

/-!
# The Phone Number Screen
-/

namespace ThorChat.Auth

open ThorChat.Library.Utf16
open ThorChat.Models
open ThorChat.Runtime
open ThorChat.Sources

/-- A country of the country picker. -/
structure Country where
  name : String
  phoneCode : String
  deriving DecidableEq, Repr

/-- `PhoneNumberVerificationVC`, by the texts of its labels and of its field. The labels are
set when the view loads, and the text of a field is never nil. -/
structure PhoneNumberVerificationVC where
  countryNameLbelref : String := ""
  countryCodeLblref : String := ""
  mobileNumberTFref : String := ""
  deriving DecidableEq, Repr

/-- `myPushKitToken` and `newDeviceId`, which are never assigned. -/
def myPushKitToken : String := ""
def newDeviceId : String := ""

namespace PhoneNumberVerificationVC

/-- `viewDidLoad`, with the country the picker has selected. -/
def viewDidLoad (selectedCountry : Country) : PhoneNumberVerificationVC :=
  { countryNameLbelref := selectedCountry.name
    countryCodeLblref := selectedCountry.phoneCode }

/-- `countryPickerView(_:didSelectCountry:)`. -/
def didSelectCountry (vc : PhoneNumberVerificationVC) (country : Country) :
    PhoneNumberVerificationVC :=
  { vc with countryNameLbelref := country.name, countryCodeLblref := country.phoneCode }

/-- `validateSignupCredentials`. -/
def validateSignupCredentials (P : Platform) (vc : PhoneNumberVerificationVC) :
    UserValidationState :=
  if vc.mobileNumberTFref.isEmpty then .invalid "Please enter your number"
  else if P.count vc.mobileNumberTFref < 10 || P.count vc.mobileNumberTFref > 10 then
    .invalid "Please enter valid number"
  else .valid

/-- `Submitbtnref`. -/
def Submitbtnref (P : Platform) (vc : PhoneNumberVerificationVC) : Action :=
  match vc.validateSignupCredentials P with
  | .valid => .LoginApiCalling
  | .invalid message => .ShowAlert message

/-- `textField(_:shouldChangeCharactersIn:replacementString:)`. -/
def shouldChangeCharactersIn (range : NSRange) (_string : String) : Bool :=
  -- Neither the replacement nor the length of the text is looked at
  range.location < 10

/-- An edit of the field, applied exactly when the delegate allows it; an edit out of bounds
traps. -/
def edit (vc : PhoneNumberVerificationVC) (range : NSRange) (string : String) :
    Option PhoneNumberVerificationVC :=
  if shouldChangeCharactersIn range string then
    (replacingCharacters vc.mobileNumberTFref range string).map fun text =>
      { vc with mobileNumberTFref := text }
  else some vc

end PhoneNumberVerificationVC

namespace LoginApiCalling

/-- The parameters of the request. -/
def parameters (countryCode mobileNumber : String) : Parameters :=
  [("customer_mobile_number", countryCode ++ mobileNumber),
   ("customer_fcm_token", newDeviceId),
   ("customer_device_type", "IOS"),
   ("push_kit_token_for_buyer", myPushKitToken)]

/-- The completion closure, which captures the country code and the number; `none` when
unwrapping the body traps. -/
def completion (countryCode mobileNumber : String) (answer : Answer) : Option (List Effect) :=
  if answer.status then
    answer.response.dictionaryObject.map fun json =>
      let check := LoginModel.map json
      if check.status = 200 then
        [.set (.Mobilenumber (countryCode ++ mobileNumber)),
         .set (.CustomerID check.customer_id),
         .pushOTPVerificationVC (countryCode ++ " " ++ mobileNumber) check.customer_id,
         .hide]
      else if check.status = 204 then [.hide, .makeToast check.message]
      else if check.status = 400 then [.hide, .makeToast check.message]
      else if check.status = 401 then [.hide, .makeToast check.message]
      else if check.status = 403 then [.hide, .ShowAlert check.message]
      -- No branch for any other status: the overlay stays up
      else []
  else some (failure answer.message)

/-- The answer is a success with an object whose status is 200. -/
def LoggedIn (answer : Answer) (json : Dictionary) : Prop :=
  answer.status = true ∧ answer.response = .object json ∧ (LoginModel.map json).status = 200

/-- What the completion closure does: it persists and pushes for a status of 200, tells about a
failure and the other statuses it knows, and does nothing at all about any other. -/
theorem completion_cases {countryCode mobileNumber : String} {answer : Answer}
    {effects : List Effect} (h : completion countryCode mobileNumber answer = some effects) :
    (∃ json, LoggedIn answer json ∧ effects =
      [.set (.Mobilenumber (countryCode ++ mobileNumber)),
        .set (.CustomerID (LoginModel.map json).customer_id),
        .pushOTPVerificationVC (countryCode ++ " " ++ mobileNumber)
          (LoginModel.map json).customer_id,
        .hide]) ∨
    ((∀ json, answer.status = true → answer.response = .object json →
        (LoginModel.map json).status ∈ listedStatuses ∧ (LoginModel.map json).status ≠ 200) ∧
      ∃ notices, effects = .hide :: notices ∧ ∀ e ∈ notices, e.isNotice = true) ∨
    (∃ json, answer.status = true ∧ answer.response = .object json ∧
      (LoginModel.map json).status ∉ listedStatuses ∧ effects = []) := by
  unfold completion at h
  cases hs : answer.status with
  | false =>
    obtain ⟨notices, hn, hnotice⟩ := failure_eq answer.message
    simp only [hs, Bool.false_eq_true, if_false, Option.some.injEq] at h
    exact Or.inr (Or.inl ⟨fun json ht => absurd ht (by simp), notices, by rw [← h, hn], hnotice⟩)
  | true =>
    simp only [hs, if_true, Option.map_eq_some_iff] at h
    obtain ⟨json, hj, rfl⟩ := h
    have hobject : answer.response = .object json := JSON.dictionaryObject_eq_some.mp hj
    by_cases h200 : (LoginModel.map json).status = 200
    · exact Or.inl ⟨json, ⟨hs, hobject, h200⟩, by simp only [h200, if_true]⟩
    · have hjson : ∀ json', answer.response = .object json' → json' = json := by
        intro json' hobject'
        rw [hobject, JSON.object.injEq] at hobject'
        exact hobject'.symm
      simp only [h200, if_false]
      split_ifs with h204 h400 h401 h403
      · refine Or.inr (Or.inl ⟨fun json' _ ho => ?_, _, rfl, by simp [Effect.isNotice]⟩)
        rw [hjson json' ho]
        exact ⟨by simp [listedStatuses, h204], h200⟩
      · refine Or.inr (Or.inl ⟨fun json' _ ho => ?_, _, rfl, by simp [Effect.isNotice]⟩)
        rw [hjson json' ho]
        exact ⟨by simp [listedStatuses, h400], h200⟩
      · refine Or.inr (Or.inl ⟨fun json' _ ho => ?_, _, rfl, by simp [Effect.isNotice]⟩)
        rw [hjson json' ho]
        exact ⟨by simp [listedStatuses, h401], h200⟩
      · refine Or.inr (Or.inl ⟨fun json' _ ho => ?_, _, rfl, by simp [Effect.isNotice]⟩)
        rw [hjson json' ho]
        exact ⟨by simp [listedStatuses, h403], h200⟩
      · exact Or.inr (Or.inr ⟨json, by simp, hobject, by simp [listedStatuses, *], rfl⟩)

end LoginApiCalling

end ThorChat.Auth
