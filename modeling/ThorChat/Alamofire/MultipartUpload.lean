import ThorChat.Alamofire.MultipartReading
import ThorChat.Alamofire.RequestEncoding
import ThorChat.Library.FileSystem

/-!
# Building an Upload

`MultipartUpload.swift`: a form is encoded into memory if it is small and the session is in the
foreground, and into a temporary file otherwise. Either way the same bytes are uploaded
(`build_ok`), and an upload that cannot be built leaves no file behind (`build_error`).
-/

namespace ThorChat.Alamofire

open ThorChat.Library
open ThorChat.Runtime
open MultipartFormData

variable {S : Strings}

/-- Files by their paths. -/
abbrev Disk := FileSystem String Bytes

/-- `UploadRequest.Uploadable`. -/
inductive Uploadable where
  | data (bytes : Bytes)
  | file (path : String)
  deriving DecidableEq, Repr

/-- The bytes that are uploaded. -/
def Uploadable.bytes (files : Disk) : Uploadable → Option Bytes
  | .data bytes => some bytes
  | .file path => files path

/-- What `build()` throws. -/
inductive BuildError where
  /-- `asURLRequest()`. -/
  | request
  /-- `createDirectory(at:withIntermediateDirectories:attributes:)`. -/
  | directory
  | encoding (reason : MultipartEncodingFailureReason)
  deriving DecidableEq, Repr

/-- What `build()` meets in the file system. -/
structure Surroundings where
  /-- The path made of the temporary directory and a fresh UUID. -/
  path : String
  directoryThrows : Bool := false
  /-- The answers of the output stream, none when it cannot be created. -/
  answers : Option (List WriteAnswer) := some []
  removeThrows : Bool := false

/-- Every write is taken, in pieces of any size. -/
def Surroundings.Accepting (surroundings : Surroundings) : Prop :=
  ∃ answers, surroundings.answers = some answers ∧
    ∀ answer ∈ answers, ∃ n, answer = WriteAnswer.wrote n

/-- `writeEncodedData(to:)`. -/
def MultipartFormData.writeEncodedData (self : MultipartFormData S)
    (answers : Option (List WriteAnswer)) (path : String) (files : Disk) :
    Disk × Option MultipartEncodingFailureReason :=
  match self.bodyPartError with
  | some bodyPartError => (files, some bodyPartError)
  | none =>
    if files.fileExists path then (files, some .outputStreamFileAlreadyExists)
    else
      match answers with
      | none => (files, some .outputStreamCreationFailed)
      | some answers =>
        let written := writeParts self.boundary
          (setFinalBoundary (setInitialBoundary self.bodyParts)) ⟨[], answers⟩
        (Function.update files path (some written.1.written), written.2)

/-- `MultipartUpload`. -/
structure MultipartUpload (S : Strings) where
  isInBackgroundSession : Bool
  encodingMemoryThreshold : Nat
  /-- `asURLRequest()`, none when it throws. -/
  request : Option URLRequest
  multipartFormData : MultipartFormData S

namespace MultipartUpload

/-- `setValue(_:forHTTPHeaderField:)` for the content type of the form. -/
def typed (self : MultipartUpload S) (urlRequest : URLRequest) : URLRequest :=
  urlRequest.setHeaders ((urlRequest.headers S).update
    { name := "Content-Type", value := self.multipartFormData.contentType })

/-- The upload of a temporary file: one that could not be written is removed. -/
def buildFile (self : MultipartUpload S) (urlRequest : URLRequest) (surroundings : Surroundings)
    (files : Disk) : Disk × Except BuildError (URLRequest × Uploadable) :=
  if surroundings.directoryThrows then (files, .error .directory)
  else
    match self.multipartFormData.writeEncodedData surroundings.answers surroundings.path files with
    | (files, some reason) =>
      ((files.removeItem surroundings.removeThrows surroundings.path).getD files,
        .error (.encoding reason))
    | (files, none) => (files, .ok (self.typed urlRequest, .file surroundings.path))

/-- `build()`. -/
def build (self : MultipartUpload S) (surroundings : Surroundings) (files : Disk) :
    Disk × Except BuildError (URLRequest × Uploadable) :=
  match self.request with
  | none => (files, .error .request)
  | some urlRequest =>
    if self.multipartFormData.contentLength < self.encodingMemoryThreshold ∧
        self.isInBackgroundSession = false then
      match self.multipartFormData.encode with
      | .ok data => (files, .ok (self.typed urlRequest, .data data))
      | .error reason => (files, .error (.encoding reason))
    else self.buildFile urlRequest surroundings files

/-! ## A form that can be written -/

/-- The file holds what is encoded into memory. -/
theorem writeEncodedData_of_accepting (form : MultipartFormData S) {surroundings : Surroundings}
    (haccepting : surroundings.Accepting) {files : Disk}
    (hfresh : files surroundings.path = none) :
    match form.encode with
    | .ok bytes =>
      form.writeEncodedData surroundings.answers surroundings.path files =
        (Function.update files surroundings.path (some bytes), none)
    | .error reason =>
      (form.writeEncodedData surroundings.answers surroundings.path files).2 = some reason := by
  obtain ⟨answers, hanswers, hwrote⟩ := haccepting
  have hexists : files.fileExists surroundings.path = false := by
    rw [FileSystem.fileExists, hfresh]
    rfl
  unfold MultipartFormData.encode MultipartFormData.writeEncodedData
  rw [hanswers, hexists]
  cases form.bodyPartError with
  | some reason => rfl
  | none =>
    -- The stream takes everything in the end, so what is thrown is what encoding throws
    have hwrites := writes_parts form.boundary
      (setFinalBoundary (setInitialBoundary form.bodyParts)) ⟨[], answers⟩ hwrote
    simp only [Bool.false_eq_true, if_false]
    cases hencode : encodeParts form.boundary
        (setFinalBoundary (setInitialBoundary form.bodyParts)) with
    | ok bytes =>
      rw [hencode] at hwrites
      obtain ⟨hthrown, hwritten, -⟩ := hwrites
      simp only [hthrown, hwritten, List.nil_append]
    | error reason =>
      rw [hencode] at hwrites
      exact hwrites

/-- The form is written to its file, and the request is typed with its boundary. -/
theorem buildFile_ok {self : MultipartUpload S} (urlRequest : URLRequest)
    {surroundings : Surroundings} (haccepting : surroundings.Accepting)
    (hdirectory : surroundings.directoryThrows = false) {files : Disk}
    (hfresh : files surroundings.path = none) {bytes : Bytes}
    (hencode : self.multipartFormData.encode = .ok bytes) :
    self.buildFile urlRequest surroundings files =
      (Function.update files surroundings.path (some bytes),
        .ok (self.typed urlRequest, .file surroundings.path)) := by
  have hwritten := writeEncodedData_of_accepting self.multipartFormData haccepting hfresh
  rw [hencode] at hwritten
  simp only [buildFile, hdirectory, Bool.false_eq_true, if_false, hwritten]

/-- The same bytes are uploaded from memory and from a file, and no other file changes. -/
theorem build_ok (self : MultipartUpload S) {urlRequest : URLRequest}
    (hrequest : self.request = some urlRequest) {surroundings : Surroundings}
    (haccepting : surroundings.Accepting) (hdirectory : surroundings.directoryThrows = false)
    {files : Disk} (hfresh : files surroundings.path = none) {bytes : Bytes}
    (hencode : self.multipartFormData.encode = .ok bytes) :
    ∃ files' uploadable,
      self.build surroundings files = (files', .ok (self.typed urlRequest, uploadable)) ∧
      uploadable.bytes files' = some bytes ∧
      ∀ path, path ≠ surroundings.path → files' path = files path := by
  rw [build, hrequest]
  -- Either way the bytes are those of `encode`: as data, or in the file at the path
  by_cases hmemory : self.multipartFormData.contentLength < self.encodingMemoryThreshold ∧
      self.isInBackgroundSession = false
  · refine ⟨files, .data bytes, ?_, rfl, ?_⟩
    · simp only [hmemory, if_true, hencode, and_self]
    · intro path _
      rfl
  · refine ⟨Function.update files surroundings.path (some bytes), .file surroundings.path, ?_,
      Function.update_self .., ?_⟩
    · simp only [if_neg hmemory]
      exact buildFile_ok urlRequest haccepting hdirectory hfresh hencode
    · intro path hpath
      exact Function.update_of_ne hpath _ _

/-- The content type is a header. -/
@[simp] theorem url_typed (self : MultipartUpload S) (urlRequest : URLRequest) :
    (self.typed urlRequest).url = urlRequest.url := rfl

@[simp] theorem method_typed (self : MultipartUpload S) (urlRequest : URLRequest) :
    (self.typed urlRequest).method = urlRequest.method := rfl

/-- The content type of the form replaces the one of the request. -/
theorem value_typed (self : MultipartUpload S) (urlRequest : URLRequest) (name : String) :
    ((self.typed urlRequest).headers S).value name =
      if S.folded name = S.folded "Content-Type" then some self.multipartFormData.contentType
      else (urlRequest.headers S).value name := by
  rw [typed, HTTPHeaders.value_eq, URLRequest.fields_setHeaders, HTTPHeaders.fields_update,
    Function.update_apply, HTTPHeaders.value_eq]

/-- A part of three bytes that exceeds its threshold. -/
def streamedUpload : MultipartUpload Strings.sample where
  isInBackgroundSession := false
  encodingMemoryThreshold := 2
  request := some { url := some "https://h/p", method := some .post }
  multipartFormData := append { boundary := "b" }
    (.stream [some [1], some [2, 3]] 3 (.ofHeaders [{ name := "X", value := "y" }]))

/-- It is written in pieces, one of them empty. -/
theorem build_ok_streamed :
    ∃ files' uploadable,
      streamedUpload.build { path := "t", answers := some [.wrote 5, .wrote 0, .wrote 2] }
          (fun _ => none) =
        (files', .ok (streamedUpload.typed { url := some "https://h/p", method := some .post },
          uploadable)) ∧
      uploadable.bytes files' =
        some (Library.Query.utf8 "--b\r\nX: y\r\n\r\n" ++ [1, 2, 3] ++
          Library.Query.utf8 "\r\n--b--\r\n") ∧
      ∀ path, path ≠ "t" → files' path = none :=
  build_ok streamedUpload rfl
    ⟨[.wrote 5, .wrote 0, .wrote 2], rfl, by simp⟩ rfl rfl (by decide)

/-! ## An upload that cannot be built -/

/-- Nothing is written but the file at the path. -/
theorem writeEncodedData_files (form : MultipartFormData S) (answers : Option (List WriteAnswer))
    (path : String) (files : Disk) :
    (form.writeEncodedData answers path files).1 = files ∨
      ∃ bytes, (form.writeEncodedData answers path files).1 =
        Function.update files path (some bytes) := by
  unfold MultipartFormData.writeEncodedData
  -- Three guards come before the stream is opened, and it is the stream that makes the file
  cases form.bodyPartError with
  | some reason => exact Or.inl rfl
  | none =>
    cases files.fileExists path with
    | true => exact Or.inl rfl
    | false =>
      cases answers with
      | none => exact Or.inl rfl
      | some answers => exact Or.inr ⟨_, rfl⟩

/-- Removing what is at a fresh path restores the files. -/
theorem removeItem_written {path : String} {files written : Disk} (hfresh : files path = none)
    (h : written = files ∨ ∃ bytes, written = Function.update files path (some bytes)) :
    (FileSystem.removeItem false path written).getD written = files := by
  rcases h with rfl | ⟨bytes, rfl⟩
  · simp [FileSystem.removeItem, FileSystem.fileExists, hfresh]
  · simp [FileSystem.removeItem, FileSystem.fileExists, ← hfresh]

/-- Whatever goes wrong, the files are as before. -/
theorem build_error (self : MultipartUpload S) {surroundings : Surroundings} {files files' : Disk}
    {error : BuildError} (hfresh : files surroundings.path = none)
    (hremove : surroundings.removeThrows = false)
    (h : self.build surroundings files = (files', .error error)) : files' = files := by
  -- A form that failed to be written is removed, whether or not the stream had made its file
  have hfile : ∀ urlRequest, self.buildFile urlRequest surroundings files =
      (files', .error error) → files' = files := by
    intro urlRequest hbuild
    rw [buildFile] at hbuild
    split at hbuild
    · exact (congrArg Prod.fst hbuild).symm
    · have hwritten := writeEncodedData_files self.multipartFormData surroundings.answers
        surroundings.path files
      split at hbuild
      · rename_i written reason heq
        rw [heq] at hwritten
        rw [hremove] at hbuild
        exact (congrArg Prod.fst hbuild).symm.trans (removeItem_written hfresh hwritten)
      · cases hbuild
  rw [build] at h
  -- Without a URL request nothing is encoded at all
  cases hrequest : self.request with
  | none =>
    rw [hrequest] at h
    exact (congrArg Prod.fst h).symm
  | some urlRequest =>
    simp only [hrequest] at h
    split at h
    · -- Encoding into memory touches no file
      split at h
      · cases h
      · exact (congrArg Prod.fst h).symm
    · exact hfile urlRequest h

/-- The stream fails in the middle of the boundary. -/
theorem build_error_streamed :
    (streamedUpload.build { path := "t", answers := some [.wrote 2, .failed] }
      (fun path => if path = "other" then some [0] else none)).1 =
        fun path => if path = "other" then some [0] else none := by
  have hbuild : streamedUpload.build { path := "t", answers := some [.wrote 2, .failed] }
      (fun path => if path = "other" then some [0] else none) =
        (_, .error (.encoding .outputStreamWriteFailed)) := rfl
  exact build_error streamedUpload rfl rfl hbuild

end MultipartUpload
end ThorChat.Alamofire
