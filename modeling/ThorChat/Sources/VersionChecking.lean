import ThorChat.Library.NumericOrder
import ThorChat.Runtime.Foundation

/-!
# The Update Prompt

`VersionChecking.swift`: the App Store lookup, the comparison of versions and the alert. The
session is a parameter: a function that takes the lookup request and returns what the completion
handler of the data task is given.
-/

namespace ThorChat.Sources

open ThorChat.Library
open ThorChat.Runtime

/-! ## The lookup -/

/-- `Bundle.main.infoDictionary`, by the keys that are read; a key is nil when it is absent, or
carries no string, or there is no dictionary. -/
structure Bundle where
  CFBundleShortVersionString : Option String
  CFBundleIdentifier : Option String
  CFBundleName : Option String

/-- `Bundle.appName()`. -/
def Bundle.appName (bundle : Bundle) : String := bundle.CFBundleName.getD ""

/-- `AppInfo`. -/
structure AppInfo where
  version : String
  trackViewUrl : String
  deriving DecidableEq, Repr

/-- Decoding an `AppInfo`: both keys must carry a string. -/
def AppInfo.decode (json : JSON) : Option AppInfo :=
  json.dictionaryObject.bind fun members =>
    (stringMember members "version").bind fun version =>
      (stringMember members "trackViewUrl").map fun trackViewUrl => ⟨version, trackViewUrl⟩

/-- Decoding a `LookupResult`: an object whose `results` are an array of `AppInfo`s. -/
def LookupResult.decode (json : JSON) : Option (List AppInfo) :=
  json.dictionaryObject.bind fun members =>
    match members.lookup "results" with
    | some (.array elements) => elements.mapM AppInfo.decode
    | _ => none

/-- The request of the lookup. -/
structure URLRequest where
  url : String
  httpMethod : String
  contentType : String
  httpBody : Dictionary

/-- What the completion handler of a data task is given, without the response it ignores. -/
structure TaskResult where
  data : Option Data
  error : Option String

/-- The errors the lookup ends with: two of its own, that of the session, and one thrown by the
decoder. -/
inductive VersionError where
  | invalidBundleInfo
  | invalidResponse
  | session (error : String)
  | decoding
  deriving DecidableEq, Repr

/-- The URL of the lookup of an app. -/
def lookupURL (identifier : String) : String :=
  "http://itunes.apple.com/in/lookup?bundleId=" ++ identifier

/-- The request of the lookup of an app. -/
def lookupRequest (identifier : String) : URLRequest where
  url := lookupURL identifier
  httpMethod := "POST"
  contentType := "Application/json"
  httpBody := [("", .string "")]

/-- The completion handler of the data task: the first result, or the error thrown on the way. -/
def firstResult (P : Platform) (result : TaskResult) : Except VersionError AppInfo :=
  match result.error with
  | some error => .error (.session error)
  | none =>
    match result.data with
    | none => .error .invalidResponse
    | some data =>
      match (P.jsonObject data).bind LookupResult.decode with
      | none => .error .decoding
      | some results =>
        match results.head? with
        | none => .error .invalidResponse
        | some info => .ok info

/-- `getAppInfo`: the arguments its completion is called with. -/
def getAppInfo (P : Platform) (bundle : Bundle) (session : URLRequest → TaskResult) :
    Except VersionError AppInfo :=
  match bundle.CFBundleIdentifier with
  | none => .error .invalidBundleInfo
  | some identifier =>
    if P.acceptsURL (lookupURL identifier) then
      firstResult P (session (lookupRequest identifier))
    else .error .invalidBundleInfo

/-! ## The prompt -/

/-- The alert, by its texts, its buttons in order and what the last one opens. -/
structure UpdateAlert where
  title : String
  message : String
  actions : List String
  AppURL : String
  deriving DecidableEq, Repr

/-- `showAppUpdateAlert`: a forced alert has no button to dismiss it. -/
def showAppUpdateAlert (bundle : Bundle) (Version : String) (Force : Bool) (AppURL : String) :
    UpdateAlert where
  title := "New Version"
  message := bundle.appName ++ " Version " ++ Version ++ " is available on AppStore."
  actions := if Force then ["Update"] else ["Not Now", "Update"]
  AppURL := AppURL

/-- The app as the prompt meets it: `keyWindow` is nil or has a root view controller or none. -/
structure Device where
  platform : Platform
  bundle : Bundle
  session : URLRequest → TaskResult
  keyWindow : Option (Option Nat)

/-- `UIApplication.shared.keyWindow!.rootViewController!`. -/
def Device.topController (device : Device) : Option Nat := device.keyWindow.join

/-- `checkVersion(force:)`: the alert it shows, if any; `none` when it traps. -/
def checkVersion (device : Device) (force : Bool) : Option (Option UpdateAlert) :=
  match device.bundle.CFBundleShortVersionString with
  | none => some none
  | some currentVersion =>
    match getAppInfo device.platform device.bundle device.session with
    | .error _ => some none
    | .ok info =>
      match compareNumeric currentVersion info.version with
      -- `"Already on the last app version"`
      | .eq => some none
      -- The alert needs a view controller to be presented on: two forced unwraps
      | .lt => device.topController.map fun _ =>
          some (showAppUpdateAlert device.bundle info.version force info.trackViewUrl)
      | .gt => some none

/-- `showUpdate(withConfirmation:)`. -/
def showUpdate (device : Device) (withConfirmation : Bool) : Option (Option UpdateAlert) :=
  checkVersion device !withConfirmation

/-! ## When the prompt is sound -/

/-- The lookup succeeds, and its first result is this one. -/
def LooksUp (device : Device) (info : AppInfo) : Prop :=
  ∃ identifier data results, device.bundle.CFBundleIdentifier = some identifier ∧
    device.platform.acceptsURL (lookupURL identifier) = true ∧
    device.session (lookupRequest identifier) = ⟨some data, none⟩ ∧
    (device.platform.jsonObject data).bind LookupResult.decode = some (info :: results)

theorem firstResult_eq_ok {P : Platform} {result : TaskResult} {info : AppInfo} :
    firstResult P result = .ok info ↔ ∃ data results, result = ⟨some data, none⟩ ∧
      (P.jsonObject data).bind LookupResult.decode = some (info :: results) := by
  obtain ⟨data, error⟩ := result
  -- The handler checks the error, the data, the decoding and the first result in turn
  cases error with
  | some error => simp [firstResult]
  | none =>
    cases data with
    | none => simp [firstResult]
    | some data =>
      cases hdecode : (P.jsonObject data).bind LookupResult.decode with
      | none => simp [firstResult, hdecode]
      | some results => cases results <;> simp [firstResult, hdecode]

theorem getAppInfo_eq_ok {device : Device} {info : AppInfo} :
    getAppInfo device.platform device.bundle device.session = .ok info ↔
      LooksUp device info := by
  unfold getAppInfo LooksUp
  cases device.bundle.CFBundleIdentifier with
  | none => simp
  | some identifier =>
    by_cases hurl : device.platform.acceptsURL (lookupURL identifier) = true
    · simp [hurl, firstResult_eq_ok]
    · simp [hurl]

/-- The prompt comes through, and it shows exactly if the second version is the newer one. -/
def PromptSound (device : Device) (force : Bool) (current store : DottedNumeral) : Prop :=
  ∃ shown, checkVersion device force = some shown ∧
    (shown.isSome = true ↔ compareVersion current.numbers store.numbers = .lt)

/-- What `checkVersion` does with the first result: it asks the string order. -/
theorem checkVersion_looksUp {device : Device} {force : Bool} {current : String}
    {info : AppInfo} (hcurrent : device.bundle.CFBundleShortVersionString = some current)
    (hinfo : LooksUp device info) :
    checkVersion device force =
      if compareNumeric current info.version = .lt then
        device.topController.map fun _ =>
          some (showAppUpdateAlert device.bundle info.version force info.trackViewUrl)
      else some none := by
  simp only [checkVersion, hcurrent, getAppInfo_eq_ok.mpr hinfo]
  cases compareNumeric current info.version <;> rfl

/-- **When the update prompt is sound.** For dotted versions, exactly if the App Store version
does not merely extend the current one by zeros, and there is a view controller to show an update
on. A lookup without a first result shows nothing. -/
theorem update_prompt_sound_iff (device : Device) (force : Bool) :
    (∀ (current store : DottedNumeral) (trackViewUrl : String),
      device.bundle.CFBundleShortVersionString = some current.render →
      LooksUp device ⟨store.render, trackViewUrl⟩ →
      (PromptSound device force current store ↔
        ¬ ExtendsByZeros current.numbers store.numbers ∧
          (compareVersion current.numbers store.numbers = .lt →
            device.topController.isSome = true))) ∧
    ((∀ info, ¬ LooksUp device info) → checkVersion device force = some none) := by
  refine ⟨fun current store trackViewUrl hcurrent hinfo => ?_, fun hnone => ?_⟩
  · rw [PromptSound, checkVersion_looksUp hcurrent hinfo, compareNumeric_render,
      ← compareLex_agrees_iff]
    -- An alert is shown exactly where the string order says that the version is below
    by_cases hlex : List.compareLex compare current.numbers store.numbers = .lt
    · cases htop : device.topController with
      | none => simp [hlex]
      | some controller => simp [hlex]
    -- No alert, which is right exactly if the version is not newer
    · simpa [hlex] using fun hnot hnewer => absurd hnewer hnot
  · unfold checkVersion
    split
    · rfl
    · cases hlookup : getAppInfo device.platform device.bundle device.session with
      | error error => rfl
      -- A lookup that succeeds has a first result
      | ok info => exact absurd (getAppInfo_eq_ok.mp hlookup) (hnone info)

/-- A device whose bundle has one version and whose lookup finds another. -/
def Device.sample (current store : String) : Device where
  platform := .sample [([1], .object [("results", .array [.object
    [("version", .string store), ("trackViewUrl", .string "https://flowerbazaaar.app/")]])])]
  bundle := ⟨some current, some "com.Thorsignia.FlowerBazaaarBuyer", some "Flower"⟩
  session := fun _ => ⟨some [1], none⟩
  keyWindow := some (some 0)

/-- 1.9 and 1.10, which the numeric order puts below it. -/
theorem update_prompt_sound_minor :
    PromptSound (.sample "1.9" "1.10") true ⟨['1'], [['9']], by simp⟩
      ⟨['1'], [['1', '0']], by simp⟩ :=
  ((update_prompt_sound_iff (.sample "1.9" "1.10") true).1 _ _ "https://flowerbazaaar.app/" rfl
    ⟨_, [1], [], rfl, by decide, rfl, rfl⟩).mpr ⟨by decide, fun _ => rfl⟩

/-- 1.0 and 1.0.0 are the same version, yet a prompt without a button to dismiss it shows. -/
theorem update_prompt_unsound : ∃ current store : DottedNumeral, ∃ alert : UpdateAlert,
    current.render = "1.0" ∧ store.render = "1.0.0" ∧
    compareVersion current.numbers store.numbers = .eq ∧
    checkVersion (.sample "1.0" "1.0.0") true = some (some alert) ∧
    alert.actions = ["Update"] :=
  ⟨⟨['1'], [['0']], by simp⟩, ⟨['1'], [['0'], ['0']], by simp⟩, _, rfl, rfl, rfl, rfl, rfl⟩

end ThorChat.Sources
