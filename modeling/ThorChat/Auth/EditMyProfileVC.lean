import ThorChat.Auth.Effect
import ThorChat.Models.LoginModel
import ThorChat.Sources.MultipartAPIs

/-!
# The Profile Screen

`EditUserProfileMethod` speaks to Alamofire itself, without the reachability check and without
`responseData`; `DeleteProfilepicMthod` goes through the request layer.
-/

namespace ThorChat.Auth

open ThorChat.Models
open ThorChat.Runtime
open ThorChat.Sources

/-- `EditMyProfileVC`, by what its requests are made of. -/
structure EditMyProfileVC where
  Nametfref : String := ""
  Username : String := ""
  /-- The selected image, by its JPEG data, nil when it has none. -/
  selectedImge : Option Data := none
  imageselected : Bool := false
  deriving DecidableEq, Repr

namespace EditMyProfileVC

/-- `viewDidLoad` of a screen pushed without a user name. -/
def viewDidLoad : EditMyProfileVC :=
  let vc : EditMyProfileVC := {}
  { vc with Nametfref := vc.Username }

/-- `Submitbtnref`. -/
def Submitbtnref (vc : EditMyProfileVC) : Action :=
  if vc.Nametfref ≠ "" then .EditUserProfileMethod else .ShowAlert "Please add your name"

/-- The callback of the image picker. -/
def pickedImage (vc : EditMyProfileVC) (jpegData : Option Data) : EditMyProfileVC :=
  { vc with selectedImge := jpegData, imageselected := true }

/-- The parts the upload adds to the form besides its parameters, `none` when unwrapping the
JPEG data traps. -/
def imageParts (vc : EditMyProfileVC) : Option (List (String × Data)) :=
  if vc.imageselected then
    vc.selectedImge.map fun jpegData => [("customer_profile_photo", jpegData)]
  else some []

end EditMyProfileVC

namespace EditUserProfileMethod

/-- The upload for a customer. -/
def request (vc : EditMyProfileVC) (defaults : UserDefaults) (CustomerID : String) :
    Option HTTPRequest :=
  vc.imageParts.map fun parts =>
    { urlString := URLs.UpdateProfileFullDetails
      method := .post
      headers :=
        [("Content-Type", "multipart/form-data; boundary=<calculated when request is sent>"),
         ("Client-Service", defaults.client_service.getD ""),
         ("Auth-Key", defaults.auth_key.getD "")]
      parameters := [("customer_id", CustomerID), ("customer_name", vc.Nametfref)]
      encoding := .multipart
      parts := parts }

/-- The response handler; `none` when unwrapping the body traps. -/
def handler (P : Platform) (response : AFDataResponse) : Option (List Effect) :=
  if response.statusCode = some 200 then
    match response.data with
    | some data =>
      (P.jsonOfData data).dictionaryObject.map fun json =>
        let check := LoginModel.map json
        .hide ::
          if check.status = 200 then [.installDashBoardTabVC]
          else if check.status = 204 then [.makeToast check.message]
          else if check.status = 400 then [.makeToast check.message]
          else if check.status = 401 then [.makeToast check.message]
          else if check.status = 403 then [.ShowAlert check.message]
          else []
    -- `let json = response.data` is nil, so `if (json != nil)` skips all, even `bar.hide()`
    | none => some []
  else some [.hide, .makeToast "somethingWentWrong"]

/-- The response is a 200 whose data is an object with a status of 200. -/
def Updated (P : Platform) (response : AFDataResponse) : Prop :=
  response.statusCode = some 200 ∧ ∃ data json, response.data = some data ∧
    P.jsonOfData data = .object json ∧ (LoginModel.map json).status = 200

/-- What the response handler does: it takes the overlay down unless a 200 carries no data, and
installs the dashboard for an update only. -/
theorem handler_cases {P : Platform} {response : AFDataResponse} {effects : List Effect}
    (h : handler P response = some effects) :
    (Updated P response ∧ effects = [.hide, .installDashBoardTabVC]) ∨
    (¬ Updated P response ∧ ¬ (response.statusCode = some 200 ∧ response.data = none) ∧
      ∃ notices, effects = .hide :: notices ∧ ∀ e ∈ notices, e.isNotice = true) ∨
    (response.statusCode = some 200 ∧ response.data = none ∧ effects = []) := by
  unfold handler at h
  by_cases hs : response.statusCode = some 200
  swap
  · simp only [hs, if_false, Option.some.injEq] at h
    exact Or.inr (Or.inl ⟨fun hu => hs hu.1, fun hn => hs hn.1, [_], h.symm,
      by simp [Effect.isNotice]⟩)
  cases hd : response.data with
  | none =>
    simp only [hs, if_true, hd, Option.some.injEq] at h
    exact Or.inr (Or.inr ⟨hs, rfl, h.symm⟩)
  | some data =>
    simp only [hs, if_true, hd, Option.map_eq_some_iff, JSON.dictionaryObject_eq_some] at h
    obtain ⟨json, hobject, rfl⟩ := h
    by_cases h200 : (LoginModel.map json).status = 200
    · exact Or.inl ⟨⟨hs, data, json, hd, hobject, h200⟩, by simp only [h200, if_true]⟩
    -- The other branches of the chain show a notice at most
    · refine Or.inr (Or.inl ⟨?_, by simp, _, rfl, ?_⟩)
      · rintro ⟨-, data', json', hd', hobject', h200'⟩
        rw [hd, Option.some.injEq] at hd'
        subst hd'
        rw [hobject, JSON.object.injEq] at hobject'
        exact h200 (hobject' ▸ h200')
      · simp only [h200, if_false]
        split_ifs <;> simp [Effect.isNotice]

end EditUserProfileMethod

namespace DeleteProfilepicMthod

/-- The parameters of the request. -/
def parameters (CustomerID : String) : Parameters :=
  [("customer_id", CustomerID)]

/-- The completion closure; `none` when unwrapping the body traps. -/
def completion (answer : Answer) : Option (List Effect) :=
  if answer.status then
    answer.response.dictionaryObject.map fun json =>
      let check := SavedAddressModel.map json
      if check.status = some 200 then [.installDashBoardTabVC, .hide]
      else if check.status = some 204 then [.makeToast check.message, .hide]
      else if check.status = some 400 then [.makeToast check.message, .hide]
      else if check.status = some 401 then [.makeToast check.message, .hide]
      else if check.status = some 403 then
        [.hide, .ShowAlert (check.message.getD "somethingWentWrong")]
      -- Any other status is unknown to the chain: the overlay stays
      else []
  else some (failure answer.message)

/-- The answer is a success with an object whose status is 200. -/
def Deleted (answer : Answer) : Prop :=
  answer.status = true ∧ ∃ json, answer.response = .object json ∧
    (SavedAddressModel.map json).status = some 200

/-- The closure knows the status of the answer, if it is a success. -/
def Known (answer : Answer) : Prop :=
  ∀ json, answer.status = true → answer.response = .object json →
    ∃ status ∈ listedStatuses, (SavedAddressModel.map json).status = some status

/-- What the completion closure does: it takes the overlay down for a failure and for the
statuses it knows, and installs the dashboard for a status of 200 only. -/
theorem completion_cases {answer : Answer} {effects : List Effect}
    (h : completion answer = some effects) :
    (Deleted answer ∧ Known answer ∧ effects = [.installDashBoardTabVC, .hide]) ∨
    (¬ Deleted answer ∧ Known answer ∧ .hide ∈ effects ∧
      ∀ e ∈ effects, e = .hide ∨ e.isNotice = true) ∨
    (¬ Deleted answer ∧ ¬ Known answer ∧ effects = []) := by
  unfold completion at h
  cases hs : answer.status with
  | false =>
    obtain ⟨notices, hn, hnotice⟩ := failure_eq answer.message
    simp only [hs, Bool.false_eq_true, if_false, Option.some.injEq] at h
    refine Or.inr (Or.inl ⟨fun hd => by simp [Deleted, hs] at hd,
      fun json ht => by simp [hs] at ht, ?_, ?_⟩)
    · rw [← h, hn]
      exact List.mem_cons_self
    · intro e he
      rw [← h, hn] at he
      rcases List.mem_cons.mp he with rfl | he
      · exact Or.inl rfl
      · exact Or.inr (hnotice e he)
  | true =>
    simp only [hs, if_true, Option.map_eq_some_iff] at h
    obtain ⟨json, hj, rfl⟩ := h
    have hobject : answer.response = .object json := JSON.dictionaryObject_eq_some.mp hj
    -- The three cases speak of the status only, once the body is known
    have hdeleted : Deleted answer ↔ (SavedAddressModel.map json).status = some 200 := by
      simp only [Deleted, hs, hobject, JSON.object.injEq, true_and, exists_eq_left']
    have hknown : Known answer ↔
        ∃ status ∈ listedStatuses, (SavedAddressModel.map json).status = some status := by
      simp only [Known, hs, hobject, JSON.object.injEq, forall_const, forall_eq']
    rw [hdeleted, hknown]
    split_ifs with h200 h204 h400 h401 h403
    · exact Or.inl ⟨h200, ⟨200, by simp [listedStatuses], h200⟩, rfl⟩
    · exact Or.inr (Or.inl ⟨h200, ⟨204, by simp [listedStatuses], h204⟩, by simp,
        by simp [Effect.isNotice]⟩)
    · exact Or.inr (Or.inl ⟨h200, ⟨400, by simp [listedStatuses], h400⟩, by simp,
        by simp [Effect.isNotice]⟩)
    · exact Or.inr (Or.inl ⟨h200, ⟨401, by simp [listedStatuses], h401⟩, by simp,
        by simp [Effect.isNotice]⟩)
    · exact Or.inr (Or.inl ⟨h200, ⟨403, by simp [listedStatuses], h403⟩, by simp,
        by simp [Effect.isNotice]⟩)
    · exact Or.inr (Or.inr ⟨h200, by simp [listedStatuses, *], rfl⟩)

end DeleteProfilepicMthod

end ThorChat.Auth
