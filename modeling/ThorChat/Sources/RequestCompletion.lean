import ThorChat.Library.Completion
import ThorChat.Sources.MultipartAPIs

/-!
# How Often the Request Layer Completes

`isNetworkAvailable`, `responseData` and the two request bodies composed of them, each as a
`Procedure`: which closures run, and how often. The composition completes once unless one of
three arms falls through: no reachability manager, an HTTP method outside the four of the
switch, or a 401 response.
-/

namespace ThorChat.Sources

open ThorChat.Library
open ThorChat.Runtime

/-! ## The reachability check -/

/-- The reachability check lets the request pass. -/
def Passes (reachability : Option NetworkReachabilityStatus) : Prop :=
  ∃ connection, reachability = some (.reachable connection)

/-- The reachability check refuses the request. -/
def Refuses (reachability : Option NetworkReachabilityStatus) : Prop :=
  reachability = some .notReachable ∨ reachability = some .unknown

theorem not_passes_of_refuses {reachability : Option NetworkReachabilityStatus}
    (h : Refuses reachability) : ¬ Passes reachability := by
  rintro ⟨connection, hc⟩
  rcases h with h | h <;> simp [h] at hc

theorem reachability_cases (reachability : Option NetworkReachabilityStatus) :
    reachability = none ∨ Refuses reachability ∨ Passes reachability := by
  match reachability with
  | none => exact Or.inl rfl
  | some .notReachable => exact Or.inr (Or.inl (Or.inl rfl))
  | some .unknown => exact Or.inr (Or.inl (Or.inr rfl))
  | some (.reachable connection) => exact Or.inr (Or.inr ⟨connection, rfl⟩)

@[simp] theorem isNetworkAvailable_none {σ : Type} (handler : Bool → String → σ → Option σ) :
    isNetworkAvailable none handler = some := rfl

theorem isNetworkAvailable_refuses {reachability : Option NetworkReachabilityStatus}
    (h : Refuses reachability) :
    ∃ message, ∀ {σ : Type} (handler : Bool → String → σ → Option σ),
      isNetworkAvailable reachability handler = handler false message := by
  rcases h with rfl | rfl
  · exact ⟨"check_Your_Internet_Connection", fun _ => rfl⟩
  · exact ⟨"notReachable", fun _ => rfl⟩

theorem isNetworkAvailable_passes {reachability : Option NetworkReachabilityStatus}
    (h : Passes reachability) :
    ∃ message, ∀ {σ : Type} (handler : Bool → String → σ → Option σ),
      isNetworkAvailable reachability handler = handler true message := by
  obtain ⟨connection, rfl⟩ := h
  cases connection with
  | ethernetOrWiFi => exact ⟨"wifi", fun _ => rfl⟩
  | cellular => exact ⟨"mobilen_w", fun _ => rfl⟩

/-! ## Reading a response -/

/-- The answer `responseData` passes on, none when it passes none on. -/
def answerOf (response : AFDataResponse) : Option Answer :=
  (responseData response (fun answer _ => some (some answer)) none).join

/-- What `responseData` does: it drops a 401, and passes any other response on as one answer. A
200 passes its decoded body on as a success, a 301 replaces it by a string. -/
theorem responseData_cases (response : AFDataResponse) :
    (response.statusCode = some 401 ∧
      ∀ {σ : Type} (completion : Completion σ), responseData response completion = some) ∨
    (response.statusCode ≠ some 401 ∧ ∃ answer : Answer,
      (∀ {σ : Type} (completion : Completion σ),
        responseData response completion = completion answer) ∧
      (answer.status = true →
        (response.statusCode = some 200 ∧ response.result = .success answer.response) ∨
        (response.statusCode = some 301 ∧ (∃ value, response.result = .success value) ∧
          answer.response = .string "Success"))) := by
  by_cases h401 : response.statusCode = some 401
  · refine Or.inl ⟨h401, fun completion => ?_⟩
    simp [responseData, h401]
  · refine Or.inr ⟨h401, ?_⟩
    unfold responseData
    cases hr : response.result with
    | success value =>
      dsimp only
      split_ifs with h200 h300 h301 h302 h400 h500 h404
      · exact ⟨⟨true, value, ""⟩, fun _ => rfl, fun _ => Or.inl ⟨h200, rfl⟩⟩
      · exact ⟨_, fun _ => rfl, fun h => Bool.noConfusion h⟩
      · exact ⟨⟨true, .string "Success", ""⟩, fun _ => rfl,
          fun _ => Or.inr ⟨h301, ⟨value, rfl⟩, rfl⟩⟩
      all_goals exact ⟨_, fun _ => rfl, fun h => Bool.noConfusion h⟩
    | failure error =>
      dsimp only
      split_ifs
      all_goals exact ⟨_, fun _ => rfl, fun h => Bool.noConfusion h⟩

theorem answerOf_of_drops {response : AFDataResponse}
    (h : ∀ {σ : Type} (completion : Completion σ), responseData response completion = some) :
    answerOf response = none := by
  rw [answerOf, h]
  rfl

theorem answerOf_of_passes {response : AFDataResponse} {answer : Answer}
    (h : ∀ {σ : Type} (completion : Completion σ),
      responseData response completion = completion answer) :
    answerOf response = some answer := by
  rw [answerOf, h]
  rfl

/-- `responseData` runs its completion at most once, on an answer that depends on nothing but
the response. -/
theorem responseData_eq {σ : Type} (response : AFDataResponse) (completion : Completion σ) :
    responseData response completion = match answerOf response with
      | some answer => completion answer
      | none => some := by
  rcases responseData_cases response with ⟨-, hdrops⟩ | ⟨-, answer, hpasses, -⟩
  · rw [answerOf_of_drops hdrops, hdrops]
  · rw [answerOf_of_passes hpasses, hpasses]

/-- It drops exactly the 401 responses. -/
theorem answerOf_eq_none_iff {response : AFDataResponse} :
    answerOf response = none ↔ response.statusCode = some 401 := by
  rcases responseData_cases response with ⟨h401, hdrops⟩ | ⟨h401, answer, hpasses, -⟩
  · rw [answerOf_of_drops hdrops]
    exact iff_of_true rfl h401
  · rw [answerOf_of_passes hpasses]
    exact iff_of_false (Option.some_ne_none answer) h401

/-- The two arms that answer `true`: a 200 response passes its decoded body on, a 301
response replaces it by a string. -/
theorem answerOf_true {response : AFDataResponse} {answer : Answer}
    (h : answerOf response = some answer) (ht : answer.status = true) :
    (response.statusCode = some 200 ∧ response.result = .success answer.response) ∨
    (response.statusCode = some 301 ∧ (∃ value, response.result = .success value) ∧
      answer.response = .string "Success") := by
  rcases responseData_cases response with ⟨-, hdrops⟩ | ⟨-, answer', hpasses, hsuccess⟩
  · rw [answerOf_of_drops hdrops] at h
    exact absurd h (by simp)
  · rw [answerOf_of_passes hpasses, Option.some.injEq] at h
    exact h ▸ hsuccess (h ▸ ht)

theorem answerOf_ok {response : AFDataResponse} {value : JSON}
    (hs : response.statusCode = some 200) (hr : response.result = .success value) :
    answerOf response = some ⟨true, value, ""⟩ := by
  simp [answerOf, responseData, hs, hr]

theorem answerOf_moved {response : AFDataResponse} {value : JSON}
    (hs : response.statusCode = some 301) (hr : response.result = .success value) :
    answerOf response = some ⟨true, .string "Success", ""⟩ := by
  simp [answerOf, responseData, hs, hr]

/-- The response is a 200 whose decoded body is this object. -/
def Accepted (response : AFDataResponse) (json : Dictionary) : Prop :=
  response.statusCode = some 200 ∧ response.result = .success (.object json)

/-- A completion is told of a success with an object exactly for the accepted responses. -/
theorem accepted_iff {response : AFDataResponse} {answer : Answer} {json : Dictionary}
    (h : answerOf response = some answer) :
    Accepted response json ↔ answer.status = true ∧ answer.response = .object json := by
  constructor
  · rintro ⟨hs, hr⟩
    rw [answerOf_ok hs hr, Option.some.injEq] at h
    subst h
    exact ⟨rfl, rfl⟩
  · rintro ⟨ht, hobject⟩
    rcases answerOf_true h ht with ⟨hs, hr⟩ | ⟨-, -, hstring⟩
    · exact ⟨hs, hobject ▸ hr⟩
    · rw [hobject] at hstring
      exact absurd hstring (by simp)

/-! ## The composed requests -/

/-- Alamofire runs the handler of a request once, on this response. -/
def Network.delivering (P : Platform) (reachability : Option NetworkReachabilityStatus)
    (response : AFDataResponse) (σ : Type) : Network σ where
  platform := P
  reachability := reachability
  alamofire := fun _ handler => handler response

/-- A call of `Wrapping_APIs.APIRequest` whose request is answered by `response`. -/
def requestProcedure (P : Platform) (reachability : Option NetworkReachabilityStatus)
    (urlString : String) (Method : HTTPMethod) (headers : List (String × String))
    (parameter : Parameters) (response : AFDataResponse) : Procedure Answer :=
  fun σ completion =>
    APIRequest (Network.delivering P reachability response σ) urlString Method headers parameter
      completion

/-- A call of a multipart function whose request is answered by `response`. -/
def multipartProcedure (P : Platform) (reachability : Option NetworkReachabilityStatus)
    (f : MultipartFunction) (defaults : UserDefaults) (paramater : Parameters)
    (response : AFDataResponse) : Procedure Answer :=
  fun σ completion =>
    f.call (Network.delivering P reachability response σ) defaults paramater completion

/-- The methods `APIRequest` switches on by name. -/
def Switched (Method : HTTPMethod) : Prop :=
  Method = .post ∨ Method = .get ∨ Method = .put ∨ Method = .delete

section Request

variable {P : Platform} {reachability : Option NetworkReachabilityStatus}
  {urlString : String} {Method : HTTPMethod} {headers : List (String × String)}
  {parameter : Parameters} {response : AFDataResponse} {f : MultipartFunction}
  {defaults : UserDefaults}

theorem requestProcedure_no_manager :
    (requestProcedure P none urlString Method headers parameter response).Silent :=
  fun _ _ _ => rfl

theorem multipartProcedure_no_manager :
    (multipartProcedure P none f defaults parameter response).Silent :=
  fun _ _ _ => rfl

theorem requestProcedure_refused (h : Refuses reachability) :
    ∃ answer, (requestProcedure P reachability urlString Method headers parameter
      response).Answers answer := by
  obtain ⟨message, hm⟩ := isNetworkAvailable_refuses h
  refine ⟨⟨false, .string "", message⟩, fun σ completion s => ?_⟩
  simp only [requestProcedure, APIRequest, Network.delivering, hm, Bool.false_eq_true, if_false]

theorem multipartProcedure_refused (h : Refuses reachability) :
    ∃ answer, (multipartProcedure P reachability f defaults parameter
      response).Answers answer := by
  obtain ⟨message, hm⟩ := isNetworkAvailable_refuses h
  refine ⟨⟨false, .string "", message⟩, fun σ completion s => ?_⟩
  simp only [multipartProcedure, MultipartFunction.call, Network.delivering, hm,
    Bool.false_eq_true, if_false]

/-- Past the reachability check a switched method hands the response to `responseData`. -/
theorem requestProcedure_switched (hp : Passes reachability)
    (hurl : P.acceptsURL urlString = true) (hM : Switched Method) :
    requestProcedure P reachability urlString Method headers parameter response =
      fun _ completion => responseData response completion := by
  obtain ⟨message, hm⟩ := isNetworkAvailable_passes hp
  funext σ completion s
  -- The four cases of the switch differ in the encoding only, which the handler does not see
  simp only [requestProcedure, APIRequest, Network.delivering, hm, if_true, hurl]
  split_ifs with h₁ h₂ h₃ h₄
  · rfl
  · rfl
  · rfl
  · rfl
  · exact absurd hM (by simp [Switched, h₁, h₂, h₃, h₄])

theorem requestProcedure_unswitched (hp : Passes reachability)
    (hurl : P.acceptsURL urlString = true) (hM : ¬ Switched Method) :
    (requestProcedure P reachability urlString Method headers parameter response).Silent := by
  obtain ⟨message, hm⟩ := isNetworkAvailable_passes hp
  simp only [Switched, not_or] at hM
  intro σ completion s
  simp only [requestProcedure, APIRequest, Network.delivering, hm, if_true, hurl, hM, if_false]

theorem multipartProcedure_encoded (hp : Passes reachability)
    {parts : List (String × Data)} (hf : f.extraParts = some parts) :
    multipartProcedure P reachability f defaults parameter response =
      fun _ completion => responseData response completion := by
  obtain ⟨message, hm⟩ := isNetworkAvailable_passes hp
  funext σ completion s
  simp only [multipartProcedure, MultipartFunction.call, Network.delivering, hm, if_true, hf,
    Option.bind_some]

theorem multipartProcedure_traps (hp : Passes reachability) (hf : f.extraParts = none) :
    (multipartProcedure P reachability f defaults parameter response).Traps := by
  obtain ⟨message, hm⟩ := isNetworkAvailable_passes hp
  intro σ completion s
  simp only [multipartProcedure, MultipartFunction.call, Network.delivering, hm, if_true, hf,
    Option.bind_none]

/-- What a request does before its response comes: nothing without a reachability manager, its
completion when the check refuses it, and else the hand-over to Alamofire of a request with this
URL and these parameters. -/
theorem APIRequest_cases {σ : Type} {net : Network σ} {completion : Completion σ} {s s' : σ}
    (hM : Switched Method)
    (h : APIRequest net urlString Method headers parameter completion s = some s') :
    s' = s ∨ (∃ message, completion ⟨false, .string "", message⟩ s = some s') ∨
      ∃ request : HTTPRequest, request.urlString = urlString ∧ request.parameters = parameter ∧
        net.alamofire request (fun response => responseData response completion) s =
          some s' := by
  unfold APIRequest at h
  rcases reachability_cases net.reachability with hr | hr | hr
  · rw [hr, isNetworkAvailable_none, Option.some.injEq] at h
    exact Or.inl h.symm
  · obtain ⟨message, hm⟩ := isNetworkAvailable_refuses hr
    simp only [hm, Bool.false_eq_true, if_false] at h
    exact Or.inr (Or.inl ⟨message, h⟩)
  · obtain ⟨message, hm⟩ := isNetworkAvailable_passes hr
    simp only [hm, if_true] at h
    split at h
    -- The four cases of the switch differ in the encoding only
    · split_ifs at h with h₁ h₂ h₃ h₄
      · exact Or.inr (Or.inr ⟨_, rfl, rfl, h⟩)
      · exact Or.inr (Or.inr ⟨_, rfl, rfl, h⟩)
      · exact Or.inr (Or.inr ⟨_, rfl, rfl, h⟩)
      · exact Or.inr (Or.inr ⟨_, rfl, rfl, h⟩)
      · exact absurd hM (by simp [Switched, h₁, h₂, h₃, h₄])
    · exact absurd h (by simp)

/-- The same for a multipart function. -/
theorem MultipartFunction.call_cases {σ : Type} {net : Network σ} {completion : Completion σ}
    {s s' : σ} (h : f.call net defaults parameter completion s = some s') :
    s' = s ∨ (∃ message, completion ⟨false, .string "", message⟩ s = some s') ∨
      ∃ request : HTTPRequest, request.urlString = f.urlString ∧
        request.parameters = parameter ∧
        net.alamofire request (fun response => responseData response completion) s =
          some s' := by
  unfold MultipartFunction.call at h
  rcases reachability_cases net.reachability with hr | hr | hr
  · rw [hr, isNetworkAvailable_none, Option.some.injEq] at h
    exact Or.inl h.symm
  · obtain ⟨message, hm⟩ := isNetworkAvailable_refuses hr
    simp only [hm, Bool.false_eq_true, if_false] at h
    exact Or.inr (Or.inl ⟨message, h⟩)
  · obtain ⟨message, hm⟩ := isNetworkAvailable_passes hr
    simp only [hm, if_true] at h
    obtain ⟨parts, -, h⟩ := Option.bind_eq_some_iff.mp h
    exact Or.inr (Or.inr ⟨_, rfl, rfl, h⟩)

/-- Reading a response completes once unless the response is a 401. -/
theorem responseData_completesOnce_iff :
    Procedure.CompletesOnce (fun _ completion => responseData response completion) ↔
      response.statusCode ≠ some 401 := by
  cases ha : answerOf response with
  | none =>
    have h401 : response.statusCode = some 401 := answerOf_eq_none_iff.mp ha
    have hsilent : @Procedure.Silent Answer
        (fun _ completion => responseData response completion) := by
      intro σ completion s
      simp only [responseData_eq, ha]
    exact iff_of_false hsilent.not_completesOnce (fun h => h h401)
  | some answer =>
    have h401 : response.statusCode ≠ some 401 := by
      intro h
      rw [answerOf_eq_none_iff.mpr h] at ha
      exact absurd ha (by simp)
    have hanswers : @Procedure.Answers Answer
        (fun _ completion => responseData response completion) answer := by
      intro σ completion s
      simp only [responseData_eq, ha]
    exact iff_of_true hanswers.completesOnce h401

theorem requestProcedure_completesOnce_iff (hurl : P.acceptsURL urlString = true) :
    (requestProcedure P reachability urlString Method headers parameter
      response).CompletesOnce ↔
      Refuses reachability ∨
        (Passes reachability ∧ Switched Method ∧ response.statusCode ≠ some 401) := by
  rcases reachability_cases reachability with rfl | hr | hp
  -- Without a manager nothing runs, and neither side of the condition holds
  · apply iff_of_false requestProcedure_no_manager.not_completesOnce
    rintro ((h | h) | ⟨⟨connection, h⟩, -⟩) <;> exact absurd h (by simp)
  · have hanswers : ∃ answer, (requestProcedure P reachability urlString Method headers parameter
        response).Answers answer := requestProcedure_refused hr
    obtain ⟨answer, ha⟩ := hanswers
    exact iff_of_true ha.completesOnce (Or.inl hr)
  · have hnr : ¬ Refuses reachability := fun hr => not_passes_of_refuses hr hp
    by_cases hM : Switched Method
    · rw [requestProcedure_switched hp hurl hM, responseData_completesOnce_iff]
      simp only [hnr, hp, hM, false_or, true_and]
    · apply iff_of_false (requestProcedure_unswitched hp hurl hM).not_completesOnce
      simp only [hnr, hM, false_or, false_and, and_false, not_false_eq_true]

theorem multipartProcedure_completesOnce_iff :
    (multipartProcedure P reachability f defaults parameter response).CompletesOnce ↔
      Refuses reachability ∨
        (Passes reachability ∧ f.extraParts ≠ none ∧ response.statusCode ≠ some 401) := by
  rcases reachability_cases reachability with rfl | hr | hp
  -- Without a manager nothing runs, and neither side of the condition holds
  · apply iff_of_false multipartProcedure_no_manager.not_completesOnce
    rintro ((h | h) | ⟨⟨connection, h⟩, -⟩) <;> exact absurd h (by simp)
  · have hanswers : ∃ answer, (multipartProcedure P reachability f defaults parameter
        response).Answers answer := multipartProcedure_refused hr
    obtain ⟨answer, ha⟩ := hanswers
    exact iff_of_true ha.completesOnce (Or.inl hr)
  · have hnr : ¬ Refuses reachability := fun hr => not_passes_of_refuses hr hp
    cases hf : f.extraParts with
    | none =>
      -- A picked image without JPEG data: the forced unwrap traps before Alamofire is reached
      apply iff_of_false (multipartProcedure_traps hp hf).not_completesOnce
      simp only [hnr, false_or, ne_eq, not_true_eq_false, false_and, and_false,
        not_false_eq_true]
    | some parts =>
      rw [multipartProcedure_encoded hp hf, responseData_completesOnce_iff]
      simp only [hnr, hp, false_or, true_and, ne_eq, reduceCtorEq, not_false_eq_true]

end Request

/-- **When the request layer completes exactly once**: the reachability check refuses, or it
passes, the method is one of the four switched on (the form encodes, for a multipart
function), and the response is not a 401. -/
theorem completes_exactly_once_iff (P : Platform)
    (reachability : Option NetworkReachabilityStatus) (response : AFDataResponse) :
    (∀ urlString Method headers parameter, P.acceptsURL urlString = true →
      ((requestProcedure P reachability urlString Method headers parameter
          response).CompletesOnce ↔
        Refuses reachability ∨
          (Passes reachability ∧ Switched Method ∧ response.statusCode ≠ some 401))) ∧
    (∀ f defaults paramater,
      ((multipartProcedure P reachability f defaults paramater response).CompletesOnce ↔
        Refuses reachability ∨
          (Passes reachability ∧ f.extraParts ≠ none ∧ response.statusCode ≠ some 401))) :=
  ⟨fun _ _ _ _ hurl => requestProcedure_completesOnce_iff hurl,
    fun _ _ _ => multipartProcedure_completesOnce_iff⟩

/-- A login over WiFi that is answered 200 completes once. -/
theorem completes_exactly_once_login :
    (requestProcedure (Platform.sample []) (some (.reachable .ethernetOrWiFi)) URLs.LogIN_API
      .post [] [] ⟨some 200, none, .success (.object [])⟩).CompletesOnce :=
  ((completes_exactly_once_iff (Platform.sample []) (some (.reachable .ethernetOrWiFi))
    ⟨some 200, none, .success (.object [])⟩).1 URLs.LogIN_API .post [] [] (by decide)).mpr
    (Or.inr ⟨⟨.ethernetOrWiFi, rfl⟩, Or.inl rfl, by decide⟩)

/-- Three calls whose completion never runs: a login answered 401, a PATCH request answered
200, and a profile photo deletion without a reachability manager. -/
theorem completion_dropped :
    ¬ (requestProcedure (Platform.sample []) (some (.reachable .ethernetOrWiFi)) URLs.LogIN_API
        .post [] [] ⟨some 401, none, .success .null⟩).CompletesOnce ∧
    ¬ (requestProcedure (Platform.sample []) (some (.reachable .cellular)) URLs.LogIN_API
        .patch [] [] ⟨some 200, none, .success (.object [])⟩).CompletesOnce ∧
    ¬ (multipartProcedure (Platform.sample []) none .API_Delete_ProfilePic_LIST .empty []
        ⟨some 200, none, .success (.object [])⟩).CompletesOnce := by
  refine ⟨?_, ?_, ?_⟩
  · rw [requestProcedure_completesOnce_iff (by decide)]
    rintro ((h | h) | ⟨-, -, h⟩)
    · exact absurd h (by decide)
    · exact absurd h (by decide)
    · exact h rfl
  · exact (requestProcedure_unswitched ⟨.cellular, rfl⟩ (by decide)
      (by unfold Switched; decide)).not_completesOnce
  · exact multipartProcedure_no_manager.not_completesOnce

end ThorChat.Sources
