import ThorChat.Runtime.Foundation

/-!
# The Request Layer

`Wrapping_APIs.swift`: the reachability check, the generic request and the reading of
Alamofire's responses. Every function reports through a completion closure, so each is
polymorphic in the state `σ` the closure works on; `none` is a trap.

Alamofire is a parameter (`Alamofire σ`): a function that takes a request and the handler for
its response. Instantiations decide when the handler runs.
-/

namespace ThorChat.Sources

open ThorChat.Runtime

/-! ## Alamofire's types -/

/-- `HTTPMethod`, a raw string with named constants. -/
structure HTTPMethod where
  rawValue : String
  deriving DecidableEq, Repr

namespace HTTPMethod

def post : HTTPMethod := ⟨"POST"⟩
def get : HTTPMethod := ⟨"GET"⟩
def put : HTTPMethod := ⟨"PUT"⟩
def delete : HTTPMethod := ⟨"DELETE"⟩
def patch : HTTPMethod := ⟨"PATCH"⟩

end HTTPMethod

/-- `NetworkReachabilityManager.NetworkReachabilityStatus.ConnectionType`. -/
inductive ConnectionType where
  | ethernetOrWiFi
  | cellular
  deriving DecidableEq, Repr

/-- `NetworkReachabilityManager.NetworkReachabilityStatus`. -/
inductive NetworkReachabilityStatus where
  | unknown
  | notReachable
  | reachable (connection : ConnectionType)
  deriving DecidableEq, Repr

/-- An `AFError`, by what the request layer reads of it. -/
structure AFError where
  _code : Int
  localizedDescription : String

/-- `AFResult`. -/
inductive AFResult where
  | success (value : JSON)
  | failure (error : AFError)

/-- `AFDataResponse`: `statusCode` is that of the HTTP response, nil when no header was
received. -/
structure AFDataResponse where
  statusCode : Option Int
  data : Option Data
  result : AFResult

/-- `response.error`. -/
def AFDataResponse.error (response : AFDataResponse) : Option AFError :=
  match response.result with
  | .success _ => none
  | .failure error => some error

/-- String-valued request parameters. -/
abbrev Parameters := List (String × String)

/-- How the parameters travel. -/
inductive Encoding where
  | json
  | url
  | multipart
  deriving DecidableEq, Repr

/-- A request as Alamofire is handed it. -/
structure HTTPRequest where
  urlString : String
  method : HTTPMethod
  headers : List (String × String)
  parameters : Parameters
  encoding : Encoding
  parts : List (String × Data) := []

/-- Alamofire: takes a request and the handler of its response. -/
abbrev Alamofire (σ : Type) :=
  HTTPRequest → (AFDataResponse → σ → Option σ) → σ → Option σ

/-- What a request meets outside the program. `reachability` is the status of a fresh
`NetworkReachabilityManager`, nil when none could be made. -/
structure Network (σ : Type) where
  platform : Platform
  reachability : Option NetworkReachabilityStatus
  alamofire : Alamofire σ

/-! ## Completions -/

/-- The three arguments of a completion closure. -/
structure Answer where
  status : Bool
  response : JSON
  message : String

/-- `completion: @escaping (_ status:Bool,_ response:JSON,_ message:String) -> ()`. -/
abbrev Completion (σ : Type) := Answer → σ → Option σ

variable {σ : Type}

/-- `isNetworkAvailable`. -/
def isNetworkAvailable (status : Option NetworkReachabilityStatus)
    (completionHandler : Bool → String → σ → Option σ) : σ → Option σ :=
  match status with
  | some .notReachable => completionHandler false "check_Your_Internet_Connection"
  | some .unknown => completionHandler false "notReachable"
  | some (.reachable .ethernetOrWiFi) => completionHandler true "wifi"
  | some (.reachable .cellular) => completionHandler true "mobilen_w"
  -- No manager: the `.none` case breaks, and nobody is called
  | none => some

def NSURLErrorTimedOut : Int := -1001
def NSURLErrorNotConnectedToInternet : Int := -1009

/-- `responseData`. -/
def responseData (response : AFDataResponse) (completion : Completion σ) : σ → Option σ :=
  let statusCode := response.statusCode
  if statusCode = some 200 then
    match response.result with
    | .success value => completion ⟨true, value, ""⟩
    | .failure error =>
      if error._code = NSURLErrorTimedOut then
        completion ⟨false, .string "Failure", "Network error"⟩
      else if error._code = NSURLErrorNotConnectedToInternet then
        completion ⟨false, .string "Failure", "Check your internet connection"⟩
      else
        completion ⟨false, .string "Failure", "Network error"⟩
  else if statusCode = some 300 then
    completion ⟨false, .string "Failure", "Token not found(Please Login again!"⟩
  else if statusCode = some 301 then
    match response.result with
    -- A success without the server's body
    | .success _ => completion ⟨true, .string "Success", ""⟩
    | .failure _ => completion ⟨false, .string "Failure", "Please try again later"⟩
  else if statusCode = some 302 then
    match response.result with
    | .success _ => completion ⟨false, .string "Failure", ""⟩
    | .failure _ => completion ⟨false, .string "Failure", "Please try again later"⟩
  else if statusCode = some 400 then
    match response.result with
    | .success _ => completion ⟨false, .string "Failure", "msg"⟩
    | .failure _ => completion ⟨false, .string "Failure", "Please try again later"⟩
  else if statusCode = some 500 then
    completion ⟨false, .string "Failure", "Something went wrong"⟩
  else if statusCode = some 404 then
    completion ⟨false, .string "Failure", "No data available"⟩
  -- The one arm that calls nobody
  else if statusCode = some 401 then
    some
  else
    completion ⟨false, .string "Failure", (response.error.map (·.localizedDescription)).getD ""⟩

/-- `Wrapping_APIs.APIRequest`. -/
def APIRequest (net : Network σ) (urlString : String) (Method : HTTPMethod)
    (headers : List (String × String)) (parameter : Parameters) (completion : Completion σ) :
    σ → Option σ :=
  isNetworkAvailable net.reachability fun status message =>
    if status then fun s =>
      -- `URL(string:)!`
      if net.platform.acceptsURL urlString then
        let request (encoding : Encoding) : HTTPRequest :=
          { urlString := urlString, method := Method, headers := headers
            parameters := parameter, encoding := encoding }
        let handler (response : AFDataResponse) : σ → Option σ := responseData response completion
        if Method = .post then net.alamofire (request .json) handler s
        else if Method = .get then net.alamofire (request .url) handler s
        else if Method = .put then net.alamofire (request .json) handler s
        else if Method = .delete then net.alamofire (request .url) handler s
        -- The `default` of the switch breaks
        else some s
      else none
    else completion ⟨false, .string "", message⟩

/-! ## The functions the sign-in screens call -/

namespace URLs

def BASE_URL : String := "https://flowerbazaaar.app/"
def LogIN_API : String := BASE_URL ++ "customer/register/or/login"
def OtpVerification : String := BASE_URL ++ "customer/login/otp/verification"
def ResendOtp : String := BASE_URL ++ "customer/login/otp/resend/"
def UpdateProfileFullDetails : String := BASE_URL ++ "update/customer/profile/details"
def DeleteProfilePic : String := BASE_URL ++ "delete/customer/profile/photo"

end URLs

/-- The headers every `API_*` function builds from the persisted credentials. -/
def jsonHeaders (defaults : UserDefaults) : List (String × String) :=
  [("Content-Type", "application/json"),
   ("Client-Service", defaults.client_service.getD ""),
   ("Auth-Key", defaults.auth_key.getD "")]

/-- `API_LogIN`. -/
def API_LogIN (net : Network σ) (defaults : UserDefaults) (paramater : Parameters)
    (completion : Completion σ) : σ → Option σ :=
  APIRequest net URLs.LogIN_API .post (jsonHeaders defaults) paramater completion

/-- `API_Register`. -/
def API_Register (net : Network σ) (defaults : UserDefaults) (paramater : Parameters)
    (completion : Completion σ) : σ → Option σ :=
  APIRequest net URLs.OtpVerification .post (jsonHeaders defaults) paramater completion

/-- `API_Resend_OTP`: the customer is the persisted one, empty when there is none. -/
def API_Resend_OTP (net : Network σ) (defaults : UserDefaults) (paramater : Parameters)
    (completion : Completion σ) : σ → Option σ :=
  let CustomerID := defaults.CustomerID.getD ""
  APIRequest net (URLs.ResendOtp ++ CustomerID) .get (jsonHeaders defaults) paramater completion

end ThorChat.Sources
