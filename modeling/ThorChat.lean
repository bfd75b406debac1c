import ThorChat.Alamofire.Delivery
import ThorChat.Alamofire.HTTPHeaders
import ThorChat.Alamofire.Invariant
import ThorChat.Alamofire.Lifecycle
import ThorChat.Alamofire.MultipartFormData
import ThorChat.Alamofire.MultipartReading
import ThorChat.Alamofire.MultipartUpload
import ThorChat.Alamofire.Outcome
import ThorChat.Alamofire.ParameterEncoding
import ThorChat.Alamofire.Preparation
import ThorChat.Alamofire.Progress
import ThorChat.Alamofire.Registry
import ThorChat.Alamofire.RequestEncoding
import ThorChat.Alamofire.Requests
import ThorChat.Alamofire.Simulation
import ThorChat.Auth.CodeEntry
import ThorChat.Auth.EditMyProfileVC
import ThorChat.Auth.Effect
import ThorChat.Auth.OTPScreen
import ThorChat.Auth.OTPVerificationVC
import ThorChat.Auth.OneVerification
import ThorChat.Auth.PhoneNumberEntry
import ThorChat.Auth.PhoneNumberVerificationVC
import ThorChat.Auth.ResendTimer
import ThorChat.Library.Completion
import ThorChat.Library.Delimiter
import ThorChat.Library.FileSystem
import ThorChat.Library.KeyedList
import ThorChat.Library.MixedRadix
import ThorChat.Library.NumericOrder
import ThorChat.Library.PercentEncoding
import ThorChat.Library.Query
import ThorChat.Library.Timeline
import ThorChat.Library.Transition
import ThorChat.Library.Utf16
import ThorChat.Models.LoginModel
import ThorChat.Runtime.Foundation
import ThorChat.Runtime.JSON
import ThorChat.Runtime.Strings
import ThorChat.Runtime.URLComponents
import ThorChat.SignIn.Answers
import ThorChat.SignIn.App
import ThorChat.SignIn.Connectivity
import ThorChat.SignIn.Crashes
import ThorChat.SignIn.CustomerRequests
import ThorChat.SignIn.Flow
import ThorChat.SignIn.Identity
import ThorChat.SignIn.Navigation
import ThorChat.SignIn.Outcomes
import ThorChat.SignIn.Overlays
import ThorChat.SignIn.PhoneSubmission
import ThorChat.SignIn.Responses
import ThorChat.SignIn.Screens
import ThorChat.SignIn.Verified
import ThorChat.Sources.FormsSent
import ThorChat.Sources.MultipartAPIs
import ThorChat.Sources.ParametersSent
import ThorChat.Sources.QueryAPIs
import ThorChat.Sources.RequestCompletion
import ThorChat.Sources.RequestDelivery
import ThorChat.Sources.VersionChecking
import ThorChat.Sources.WrappingAPIs
import ThorChat.SupportFrameWorks.Clock
import ThorChat.SupportFrameWorks.CodeFields
import ThorChat.SupportFrameWorks.CodeTyping
import ThorChat.SupportFrameWorks.DocumentImport
import ThorChat.SupportFrameWorks.EntryBuffer
import ThorChat.SupportFrameWorks.GIFAnimation
import ThorChat.SupportFrameWorks.ImagePicker
import ThorChat.SupportFrameWorks.PUGIFLoading
import ThorChat.SupportFrameWorks.StopWatch
import ThorChat.SupportFrameWorks.VPMOTPView
