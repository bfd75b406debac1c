import ThorChat.Auth.EditMyProfileVC
import ThorChat.Auth.OTPVerificationVC
import ThorChat.Auth.PhoneNumberVerificationVC
import ThorChat.Sources.RequestCompletion
import ThorChat.SupportFrameWorks.PUGIFLoading

/-!
# The App during Sign-In

The persisted keys, the windows with their overlays, the navigation stack, and the network
calls that wait for their outcome.

A call waits from the moment its overlay is put up until Alamofire delivers its response or the
reachability check refuses it. A response may come at any later time, so Alamofire is
instantiated by noting the request of the call down; `respond` then runs the response handler
of the call. The closures of a call are known from the method that started it and from what
they capture.
-/

namespace ThorChat.SignIn

open ThorChat.Auth
open ThorChat.Models
open ThorChat.Runtime
open ThorChat.Sources
open ThorChat.SupportFrameWorks

/-! ## Screens -/

/-- The view controllers of the sign-in flow. -/
inductive Screen where
  | LounchScreenVC
  | TermaAndPolicyVC (titleStr : String)
  | PhoneNumberVerificationVC (vc : Auth.PhoneNumberVerificationVC)
  | OTPVerificationVC (vc : Auth.OTPVerificationVC)
  | EditMyProfileVC (vc : Auth.EditMyProfileVC)
  deriving DecidableEq, Repr

/-- A view controller object. -/
structure Controller where
  id : Nat
  screen : Screen
  deriving DecidableEq, Repr

/-- The root view controller of the key window. -/
inductive Root where
  /-- The stack of view controllers, the top one first. -/
  | UINavigationController (viewControllers : List Controller)
  | DashBoardTabVC
  deriving DecidableEq, Repr

/-! ## Calls -/

/-- The methods that start a network call, with what their closures capture. -/
inductive Method where
  | LoginApiCalling (countryCode mobileNumber : String)
  /-- `customer_id` is the customer the request was sent for (a history variable). -/
  | sendOtpValidation (customer_id : String)
  | REsendOtpValidation
  | EditUserProfileMethod
  | DeleteProfilepicMthod
  deriving DecidableEq, Repr

/-- What the completion closure of a method does; the profile update has none. -/
def Method.completion : Method → Answer → Option (List Effect)
  | .LoginApiCalling countryCode mobileNumber =>
    Auth.LoginApiCalling.completion countryCode mobileNumber
  | .sendOtpValidation _ => Auth.sendOtpValidation.completion
  | .REsendOtpValidation => Auth.REsendOtpValidation.completion
  | .EditUserProfileMethod => fun _ => some []
  | .DeleteProfilepicMthod => Auth.DeleteProfilepicMthod.completion

/-- A call that waits for its outcome. -/
structure Call where
  /-- The `PUGIFLoading` object of the call. -/
  bar : Nat
  /-- The view controller the closures capture as `self`. -/
  self : Nat
  method : Method
  /-- The request handed to Alamofire; nil as long as there is none. -/
  request : Option HTTPRequest := none

/-- A verification answered with status 200 (a history variable). -/
structure Verification where
  customer_id : String
  answer : RegisterModel
  deriving DecidableEq, Repr

/-- What a verification or a resend started by the one-time-code screen was for: the customer
the screen verifies and the customer a resend goes to at that moment (a history variable). -/
structure OTPRequest where
  verifies : String
  resendsTo : String
  deriving DecidableEq, Repr

/-- The app during sign-in. View controllers, windows and `PUGIFLoading` objects are numbered
in the order of their creation. -/
structure App where
  defaults : UserDefaults
  windows : Windows
  root : Root
  calls : List Call := []
  nextId : Nat
  verifications : List Verification := []
  otpRequests : List OTPRequest := []

namespace App

/-! ## Navigation -/

/-- The view controllers on the navigation stack. -/
def viewControllers (app : App) : List Controller :=
  match app.root with
  | .UINavigationController viewControllers => viewControllers
  | .DashBoardTabVC => []

/-- The screen the user sees, with its number. -/
def top (app : App) : Option Controller := app.viewControllers.head?

/-- `self.navigationController?.pushViewController`: `self` has a navigation controller as long
as it is on the stack. -/
def push (self : Nat) (screen : Screen) (app : App) : App :=
  if self ∈ app.viewControllers.map (·.id) then
    { app with
      root := .UINavigationController (⟨app.nextId, screen⟩ :: app.viewControllers)
      nextId := app.nextId + 1 }
  else app

/-- `self.navigationController?.popViewController`, which keeps the first view controller. -/
def pop (app : App) : App :=
  match app.root with
  | .UINavigationController (_ :: below :: rest) =>
    { app with root := .UINavigationController (below :: rest) }
  | _ => app

/-- Change a view controller that is on the stack. -/
def update (self : Nat) (f : Screen → Screen) (app : App) : App :=
  match app.root with
  | .UINavigationController viewControllers =>
    { app with root := .UINavigationController (viewControllers.map fun controller =>
        if controller.id = self then { controller with screen := f controller.screen }
        else controller) }
  | .DashBoardTabVC => app

/-- A new key window with `DashBoardTabVC` as its root view controller. -/
def installDashBoardTabVC (app : App) : App :=
  { app with
    windows := app.windows.makeKey app.nextId
    root := .DashBoardTabVC
    nextId := app.nextId + 1 }

/-! ## Effects -/

/-- Carry out an effect of a closure of this call. -/
def perform (call : Call) (app : App) : Effect → App
  | .hide => { app with windows := app.windows.hide call.bar }
  | .set entry => { app with defaults := app.defaults.set entry }
  | .pushOTPVerificationVC mobileNumber CustomerID =>
    app.push call.self (.OTPVerificationVC (.viewDidLoad mobileNumber CustomerID))
  | .pushEditMyProfileVC => app.push call.self (.EditMyProfileVC .viewDidLoad)
  | .installDashBoardTabVC => app.installDashBoardTabVC
  -- Notices are shown and forgotten
  | .makeToast _ => app
  | .ShowAlert _ => app
  -- The rest concerns the one-time-code screen the closure captured
  | effect => app.update call.self fun
    | .OTPVerificationVC vc => .OTPVerificationVC (vc.perform effect)
    | screen => screen

/-- Carry out the effects of a closure in order. -/
def performAll (call : Call) (app : App) (effects : List Effect) : App :=
  effects.foldl (perform call) app

/-! ## Waiting -/

/-- The call does not wait any longer. -/
def settle (bar : Nat) (app : App) : App :=
  { app with calls := app.calls.filter fun call => call.bar ≠ bar }

/-- Hand the request of a call to Alamofire. -/
def sending (bar : Nat) (request : HTTPRequest) (app : App) : App :=
  { app with calls := app.calls.map fun call =>
      if call.bar = bar then { call with request := some request } else call }

/-- The completion closure of a call. -/
def completion (call : Call) : Completion App := fun answer app =>
  (call.method.completion answer).map ((app.settle call.bar).performAll call)

/-- The network as a call meets it: Alamofire takes the request and runs its handler later. -/
def network (P : Platform) (reachability : Option NetworkReachabilityStatus) (call : Call) :
    Network App where
  platform := P
  reachability := reachability
  alamofire := fun request _ app => some (app.sending call.bar request)

/-- The call a method starts. -/
def newCall (self : Nat) (method : Method) (app : App) : Call where
  bar := app.nextId
  self := self
  method := method

/-- `bar.show`, from which on the call waits. -/
def begin (call : Call) (app : App) : App :=
  { app with
    windows := app.windows.show call.bar
    calls := call :: app.calls
    nextId := app.nextId + 1 }

/-! ## The methods that start a call -/

/-- `LoginApiCalling`. -/
def LoginApiCalling (P : Platform) (reachability : Option NetworkReachabilityStatus)
    (self : Nat) (vc : Auth.PhoneNumberVerificationVC) (app : App) : Option App :=
  let mobileNumber := vc.mobileNumberTFref
  let countryCode := vc.countryCodeLblref
  let call := app.newCall self (.LoginApiCalling countryCode mobileNumber)
  API_LogIN (network P reachability call) app.defaults
    (Auth.LoginApiCalling.parameters countryCode mobileNumber) (completion call) (app.begin call)

/-- Note down what a request of the one-time-code screen is for. -/
def noteOTPRequest (vc : Auth.OTPVerificationVC) (app : App) : App :=
  { app with otpRequests :=
      ⟨vc.CustomerID, app.defaults.CustomerID.getD ""⟩ :: app.otpRequests }

/-- `sendOtpValidation`. -/
def sendOtpValidation (P : Platform) (reachability : Option NetworkReachabilityStatus)
    (self : Nat) (vc : Auth.OTPVerificationVC) (app : App) : Option App :=
  let call := app.newCall self (.sendOtpValidation vc.CustomerID)
  API_Register (network P reachability call) app.defaults (Auth.sendOtpValidation.parameters vc)
    (completion call) ((app.noteOTPRequest vc).begin call)

/-- `REsendOtpValidation`. -/
def REsendOtpValidation (P : Platform) (reachability : Option NetworkReachabilityStatus)
    (self : Nat) (vc : Auth.OTPVerificationVC) (app : App) : Option App :=
  let call := app.newCall self .REsendOtpValidation
  API_Resend_OTP (network P reachability call) app.defaults Auth.REsendOtpValidation.parameters
    (completion call) ((app.noteOTPRequest vc).begin call)

/-- `EditUserProfileMethod`. -/
def EditUserProfileMethod (self : Nat) (vc : Auth.EditMyProfileVC) (app : App) : Option App :=
  let call := app.newCall self .EditUserProfileMethod
  let app := app.begin call
  match app.defaults.CustomerID with
  -- Without a customer the guard returns, after the overlay was put up
  | none => some ((app.settle call.bar).perform call .hide)
  | some CustomerID =>
    (Auth.EditUserProfileMethod.request vc app.defaults CustomerID).map fun request =>
      app.sending call.bar request

/-- `DeleteProfilepicMthod`. -/
def DeleteProfilepicMthod (P : Platform) (reachability : Option NetworkReachabilityStatus)
    (self : Nat) (app : App) : Option App :=
  let call := app.newCall self .DeleteProfilepicMthod
  let app := app.begin call
  match app.defaults.CustomerID with
  | none => some ((app.settle call.bar).perform call .hide)
  | some CustomerID =>
    API_Delete_ProfilePic_LIST (network P reachability call) app.defaults
      (Auth.DeleteProfilepicMthod.parameters CustomerID) (completion call) app

/-! ## Responses -/

/-- The response handler of a call. -/
def handler (P : Platform) (call : Call) (response : AFDataResponse) (app : App) : Option App :=
  match call.method with
  | .EditUserProfileMethod =>
    (Auth.EditUserProfileMethod.handler P response).map (app.performAll call)
  | _ => responseData response (completion call) app

/-- Note a verification answered with status 200 down. -/
def noteVerification (call : Call) (response : AFDataResponse) (app : App) : App :=
  match call.method, (answerOf response).bind Auth.sendOtpValidation.verified with
  | .sendOtpValidation customer_id, some answer =>
    { app with verifications := ⟨customer_id, answer⟩ :: app.verifications }
  | _, _ => app

/-- Alamofire delivers the response of the call with this `bar`, if it was given a request. -/
def respond (P : Platform) (bar : Nat) (response : AFDataResponse) (app : App) : Option App :=
  match app.calls.find? fun call => call.bar = bar && call.request.isSome with
  | some call => handler P call response ((app.settle bar).noteVerification call response)
  | none => some app

/-! ## Launching -/

/-- A start of the process. The storyboard makes a navigation controller with a
`LounchScreenVC` the root view controller; `NavigationScreens` then installs the dashboard or
pushes a `LounchScreenVC`. The history variables outlive the process. -/
def launch (defaults : UserDefaults) (verifications : List Verification)
    (otpRequests : List OTPRequest) : App :=
  let app : App :=
    { defaults := defaults
      windows := { keyWindow := some 0, overlays := [] }
      root := .UINavigationController [⟨1, .LounchScreenVC⟩]
      nextId := 2
      verifications := verifications
      otpRequests := otpRequests }
  -- `NavigationScreens`
  if defaults.isUserLogIned then app.installDashBoardTabVC else app.push 1 .LounchScreenVC

/-- The first start of the process, with nothing persisted. -/
def initial : App := launch .empty [] []

end App

end ThorChat.SignIn
