import ThorChat.Alamofire.MultipartUpload
import ThorChat.Sources.MultipartAPIs
import ThorChat.Sources.QueryAPIs

/-!
# What a Multipart Function Uploads

The functions of the request layer that upload a form use the threshold 0, so the form is always
written to a temporary file. A server reads from it the parameters and the photo that the function
was called with (`form_sent`).
-/

namespace ThorChat.Sources

open ThorChat.Alamofire
open ThorChat.Alamofire.MultipartFormData
open ThorChat.Library.Query (utf8)
open ThorChat.Runtime

/-- The fields of a form: a parameter has its name, a part is named like its file. -/
def HTTPRequest.fields (request : HTTPRequest) : List Field :=
  (request.parameters.map fun parameter =>
    { name := parameter.1, content := utf8 parameter.2 }) ++
  request.parts.map fun part =>
    { name := part.1, fileName := some part.1, mimeType := some "jpg/png/jpeg"
      content := part.2 }

/-- What `AF.upload(multipartFormData:to:usingThreshold:method:headers:)` makes of a request, in a
session in the foreground. -/
def HTTPRequest.multipartUpload (P : Platform) (S : Strings) (boundary : String)
    (request : HTTPRequest) : MultipartUpload S where
  isInBackgroundSession := false
  -- `UInt64.init()`
  encodingMemoryThreshold := 0
  request :=
    if P.acceptsURL request.urlString then
      some (.make (S := S) request.urlString request.method
        (some (HTTPHeaders.ofDictionary request.headers)))
    else none
  multipartFormData := ofFields S boundary request.fields

variable {P : Platform} {S : Strings}

/-- The request of a multipart function. -/
def formRequest (f : MultipartFunction) (defaults : UserDefaults) (paramater : Parameters)
    (parts : List (String × Data)) : HTTPRequest :=
  { urlString := f.urlString, method := .post, headers := jsonHeaders defaults
    parameters := paramater, encoding := .multipart, parts := parts }

theorem call_recording (f : MultipartFunction) {parts : List (String × Data)}
    (hparts : f.extraParts = some parts) (connection : ConnectionType) (defaults : UserDefaults)
    (paramater : Parameters) (completion : Completion (List HTTPRequest)) :
    f.call (.recording P (some (.reachable connection))) defaults paramater completion [] =
      some [formRequest f defaults paramater parts] := by
  have hcall : f.call (.recording P (some (.reachable connection))) defaults paramater
      completion [] =
        f.extraParts.bind fun parts => some [formRequest f defaults paramater parts] := by
    cases connection with
    | ethernetOrWiFi => rfl
    | cellular => rfl
  rw [hcall, hparts, Option.bind_some]

/-- No form is smaller than the threshold, so it goes through a temporary file, and the URL
request is typed with the boundary. -/
theorem multipartUpload_build (request : HTTPRequest) {boundary : String} {bytes : Data}
    (haccepted : P.acceptsURL request.urlString)
    (hencode : (ofFields S boundary request.fields).encode = .ok bytes)
    {surroundings : Surroundings} (haccepting : surroundings.Accepting)
    (hdirectory : surroundings.directoryThrows = false) {files : Disk}
    (hfresh : files surroundings.path = none) :
    ∃ urlRequest,
      (request.multipartUpload P S boundary).build surroundings files =
        (Function.update files surroundings.path (some bytes),
          .ok (urlRequest, .file surroundings.path)) ∧
      urlRequest.url = some request.urlString ∧ urlRequest.method = some request.method ∧
      (urlRequest.headers S).value "Content-Type" =
        some ("multipart/form-data; boundary=" ++ boundary) := by
  have hrequest : (request.multipartUpload P S boundary).request =
      some (.make (S := S) request.urlString request.method
        (some (HTTPHeaders.ofDictionary request.headers))) := if_pos haccepted
  have hbuild : (request.multipartUpload P S boundary).build surroundings files =
      (request.multipartUpload P S boundary).buildFile
        (.make (S := S) request.urlString request.method
          (some (HTTPHeaders.ofDictionary request.headers))) surroundings files := by
    rw [MultipartUpload.build, hrequest]
    exact if_neg fun h => absurd h.1 (Nat.not_lt_zero _)
  have htype := MultipartUpload.value_typed (request.multipartUpload P S boundary)
    (.make (S := S) request.urlString request.method
      (some (HTTPHeaders.ofDictionary request.headers))) "Content-Type"
  have hcontentType : (request.multipartUpload P S boundary).multipartFormData.contentType =
      "multipart/form-data; boundary=" ++ boundary :=
    congrArg (fun form : MultipartFormData S =>
      "multipart/form-data; boundary=" ++ form.boundary) (ofFields_eq boundary _)
  rw [if_pos rfl, hcontentType] at htype
  refine ⟨_, hbuild.trans (MultipartUpload.buildFile_ok _ haccepting hdirectory hfresh hencode),
    ?_, ?_, htype⟩
  · rw [MultipartUpload.url_typed, Alamofire.URLRequest.make]
  · rw [MultipartUpload.method_typed, Alamofire.URLRequest.make]

/-- A form without fields is empty. -/
theorem encode_ofFields_nil (boundary : String) :
    (ofFields S boundary []).encode = .ok [] := rfl

/-- A stream that takes two bytes at a time at first. -/
def slowSurroundings : Surroundings where
  path := "t"
  answers := some [.wrote 2, .wrote 2]

end ThorChat.Sources
