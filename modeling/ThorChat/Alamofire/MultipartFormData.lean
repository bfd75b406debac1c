import ThorChat.Alamofire.HTTPHeaders
import ThorChat.Library.PercentEncoding

/-!
# Multipart Forms

`MultipartFormData.swift`: parts are appended to a form, and the form is encoded into memory or
written to a file. Streams are known by what they answer when they are read or written, in pieces
of any size. Lengths are natural numbers; where the source adds them up as `UInt64`, a sum of 2^64
or more traps.

## Main results

- `run_append`: after any appends, the form has the parts of the successful ones in order and the
  error of the first failed one.
- `writes_parts`: to a stream that takes what it is given, in whatever pieces, exactly the bytes
  are written that are encoded into memory, and the same errors are thrown.
-/

namespace ThorChat.Alamofire

open ThorChat.Library.Query (utf8)
open ThorChat.Runtime

/-- Bytes. -/
abbrev Bytes := List UInt8

/-- `InputStream`: what each read puts into the buffer, none where there is a stream error. After
the last read no bytes are available. -/
abbrev InputStream := List (Option Bytes)

/-- `AFError.MultipartEncodingFailureReason`. -/
inductive MultipartEncodingFailureReason where
  | bodyPartURLInvalid
  | bodyPartFilenameInvalid
  | bodyPartFileNotReachable
  | bodyPartFileNotReachableWithError
  | bodyPartFileIsDirectory
  | bodyPartFileSizeNotAvailable
  | bodyPartFileSizeQueryFailedWithError
  | bodyPartInputStreamCreationFailed
  | outputStreamCreationFailed
  | outputStreamFileAlreadyExists
  | outputStreamWriteFailed
  | inputStreamReadFailed
  deriving DecidableEq, Repr

namespace MultipartFormData

/-- `EncodingCharacters.crlf`. -/
def crlf : String := "\r\n"

/-- `BoundaryGenerator.BoundaryType`. -/
inductive BoundaryType where
  | initial
  | encapsulated
  | final
  deriving DecidableEq, Repr

/-- `boundaryData(forBoundaryType:boundary:)`. -/
def boundaryData (boundary : String) : BoundaryType → Bytes
  | .initial => utf8 ("--" ++ boundary ++ crlf)
  | .encapsulated => utf8 (crlf ++ "--" ++ boundary ++ crlf)
  | .final => utf8 (crlf ++ "--" ++ boundary ++ "--" ++ crlf)

/-- `BodyPart`. -/
structure BodyPart (S : Strings) where
  headers : HTTPHeaders S
  bodyStream : InputStream
  bodyContentLength : Nat
  hasInitialBoundary : Bool := false
  hasFinalBoundary : Bool := false

end MultipartFormData

open MultipartFormData

/-- `MultipartFormData`. -/
structure MultipartFormData (S : Strings) where
  boundary : String
  bodyParts : List (BodyPart S) := []
  bodyPartError : Option MultipartEncodingFailureReason := none

namespace MultipartFormData

variable {S : Strings}

/-- `contentType`. -/
def contentType (self : MultipartFormData S) : String :=
  "multipart/form-data; boundary=" ++ self.boundary

/-- `contentLength`. -/
def contentLength (self : MultipartFormData S) : Nat :=
  self.bodyParts.foldl (fun length part => length + part.bodyContentLength) 0

/-! ## Appending -/

/-- What the file system says about a file URL. -/
structure FileURL where
  isFileURL : Bool
  /-- `checkPromisedItemIsReachable()`, none when it throws. -/
  reachable : Option Bool
  /-- `fileExists(atPath:isDirectory:)`, none when nothing is there. -/
  isDirectory : Option Bool
  /-- The size among `attributesOfItem(atPath:)`; none outside when these throw, inside when they
  have no size. -/
  fileSize : Option (Option Nat)
  /-- `InputStream(url:)`. -/
  stream : Option InputStream
  lastPathComponent : String
  pathExtension : String

/-- `contentHeaders(withName:fileName:mimeType:)`. -/
def contentHeaders (name : String) (fileName mimeType : Option String) : HTTPHeaders S :=
  let disposition := "form-data; name=\"" ++ name ++ "\"" ++
    (fileName.map fun fileName => "; filename=\"" ++ fileName ++ "\"").getD ""
  let headers := HTTPHeaders.ofHeaders [{ name := "Content-Disposition", value := disposition }]
  match mimeType with
  | some mimeType => headers.update { name := "Content-Type", value := mimeType }
  | none => headers

/-- `setBodyPartError(withReason:)`: the first error stays. -/
def setBodyPartError (self : MultipartFormData S) (reason : MultipartEncodingFailureReason) :
    MultipartFormData S :=
  match self.bodyPartError with
  | some _ => self
  | none => { self with bodyPartError := some reason }

/-- `streamBufferSize`. -/
def streamBufferSize : Nat := 1024

/-- `InputStream(data:)`: each read fills the buffer as far as there are bytes. -/
def streamOfData (bytes : Bytes) : InputStream :=
  if bytes.isEmpty then []
  else some (bytes.take streamBufferSize) :: streamOfData (bytes.drop streamBufferSize)
termination_by bytes.length
decreasing_by
  cases bytes with
  | nil => contradiction
  | cons b bytes =>
    simp only [List.length_drop, List.length_cons, streamBufferSize]
    omega

/-- The checks of `append(_:withName:fileName:mimeType:)` for a file, in their order. -/
def checked (fileURL : FileURL) :
    Except MultipartEncodingFailureReason (InputStream × Nat) :=
  if !fileURL.isFileURL then .error .bodyPartURLInvalid
  else
    match fileURL.reachable with
    | none => .error .bodyPartFileNotReachableWithError
    | some false => .error .bodyPartFileNotReachable
    | some true =>
      match fileURL.isDirectory with
      | none => .error .bodyPartFileIsDirectory
      | some true => .error .bodyPartFileIsDirectory
      | some false =>
        match fileURL.fileSize with
        | none => .error .bodyPartFileSizeQueryFailedWithError
        | some none => .error .bodyPartFileSizeNotAvailable
        | some (some bodyContentLength) =>
          match fileURL.stream with
          | none => .error .bodyPartInputStreamCreationFailed
          | some stream => .ok (stream, bodyContentLength)

/-- The functions `append`. -/
inductive Append (S : Strings) where
  | data (bytes : Bytes) (name : String) (fileName mimeType : Option String)
  | file (fileURL : FileURL) (name fileName mimeType : String)
  /-- A file under its own name; the type is that of its extension. -/
  | namedFile (fileURL : FileURL) (name mimeType : String)
  | stream (bodyStream : InputStream) (length : Nat) (headers : HTTPHeaders S)

/-- The part an append adds, or the error it sets. -/
def Append.part : Append S → Except MultipartEncodingFailureReason (BodyPart S)
  | .data bytes name fileName mimeType =>
    .ok
      { headers := contentHeaders name fileName mimeType, bodyStream := streamOfData bytes
        bodyContentLength := bytes.length }
  | .file fileURL name fileName mimeType =>
    (checked fileURL).map fun found =>
      { headers := contentHeaders name fileName mimeType, bodyStream := found.1
        bodyContentLength := found.2 }
  | .namedFile fileURL name mimeType =>
    if fileURL.lastPathComponent ≠ "" ∧ fileURL.pathExtension ≠ "" then
      (checked fileURL).map fun found =>
        { headers := contentHeaders name fileURL.lastPathComponent mimeType
          bodyStream := found.1, bodyContentLength := found.2 }
    else .error .bodyPartFilenameInvalid
  | .stream bodyStream length headers =>
    .ok { headers := headers, bodyStream := bodyStream, bodyContentLength := length }

/-- An append adds its part, or sets its error if there is none yet. -/
def append (self : MultipartFormData S) (call : Append S) : MultipartFormData S :=
  match call.part with
  | .ok part => { self with bodyParts := self.bodyParts ++ [part] }
  | .error reason => self.setBodyPartError reason

/-- The error an append sets. -/
def Append.error (call : Append S) : Option MultipartEncodingFailureReason :=
  match call.part with
  | .ok _ => none
  | .error reason => some reason

/-- The parts of the appends that succeed, and the first error of those that do not. -/
theorem run_append (self : MultipartFormData S) (calls : List (Append S)) :
    calls.foldl append self =
      { self with
        bodyParts := self.bodyParts ++ calls.filterMap fun call => call.part.toOption
        bodyPartError := self.bodyPartError.or (calls.findSome? Append.error) } := by
  induction calls generalizing self with
  | nil => simp
  | cons call calls ih =>
    rw [List.foldl_cons, ih]
    cases hpart : call.part with
    | ok part => simp [append, Append.error, hpart, Except.toOption]
    | error reason =>
      cases herror : self.bodyPartError with
      | none => simp [append, setBodyPartError, Append.error, hpart, herror, Except.toOption]
      | some first => simp [append, setBodyPartError, hpart, herror, Except.toOption]

/-! ## Encoding into memory -/

/-- `bodyParts.first?.hasInitialBoundary = true`. -/
def setInitialBoundary : List (BodyPart S) → List (BodyPart S)
  | [] => []
  | part :: parts => { part with hasInitialBoundary := true } :: parts

/-- `bodyParts.last?.hasFinalBoundary = true`. -/
def setFinalBoundary : List (BodyPart S) → List (BodyPart S)
  | [] => []
  | [part] => [{ part with hasFinalBoundary := true }]
  | part :: next :: parts => part :: setFinalBoundary (next :: parts)

/-- `encodeHeaders(for:)`. -/
def encodeHeaders (part : BodyPart S) : Bytes :=
  utf8 (String.join (part.headers.headers.map fun header =>
    header.name ++ ": " ++ header.value ++ crlf) ++ crlf)

/-- `encodeBodyStream(for:)`. -/
def encodeBodyStream : InputStream → Except MultipartEncodingFailureReason Bytes
  | [] => .ok []
  | none :: _ => .error .inputStreamReadFailed
  | some buffer :: reads =>
    if buffer.isEmpty then .ok [] else (encodeBodyStream reads).map (buffer ++ ·)

/-- The boundary before a part. -/
def leadingBoundary (boundary : String) (part : BodyPart S) : Bytes :=
  boundaryData boundary (if part.hasInitialBoundary then .initial else .encapsulated)

/-- The boundary after the last part. -/
def trailingBoundary (boundary : String) (part : BodyPart S) : Bytes :=
  if part.hasFinalBoundary then boundaryData boundary .final else []

/-- `encode(_:)`. -/
def encodePart (boundary : String) (part : BodyPart S) :
    Except MultipartEncodingFailureReason Bytes :=
  (encodeBodyStream part.bodyStream).map fun bodyStreamData =>
    leadingBoundary boundary part ++ encodeHeaders part ++ bodyStreamData ++
      trailingBoundary boundary part

/-- The loop of `encode()`. -/
def encodeParts (boundary : String) :
    List (BodyPart S) → Except MultipartEncodingFailureReason Bytes
  | [] => .ok []
  | part :: parts =>
    (encodePart boundary part).bind fun encodedData =>
      (encodeParts boundary parts).map (encodedData ++ ·)

/-- `encode()`. -/
def encode (self : MultipartFormData S) : Except MultipartEncodingFailureReason Bytes :=
  match self.bodyPartError with
  | some bodyPartError => .error bodyPartError
  | none =>
    encodeParts self.boundary (setFinalBoundary (setInitialBoundary self.bodyParts))

/-! ## Writing to a stream -/

/-- What a stream answers to a write: the number of bytes it took, that it has no space, or an
error. -/
inductive WriteAnswer where
  | wrote (bytesWritten : Nat)
  | full
  | failed
  deriving DecidableEq, Repr

/-- `OutputStream`: what was written, and its answers to come, after which it takes
everything. -/
structure OutputStream where
  written : Bytes
  answers : List WriteAnswer

/-- A stream after writing, and what was thrown. -/
abbrev Written := OutputStream × Option MultipartEncodingFailureReason

/-- Go on unless something was thrown. -/
def Written.andThen (before : Written) (next : OutputStream → Written) : Written :=
  match before.2 with
  | none => next before.1
  | some _ => before

/-- The loop of `write(_:to:)`. -/
def writeLoop (written : Bytes) : List WriteAnswer → Bytes → Written
  | answers, [] => (⟨written, answers⟩, none)
  | [], buffer => (⟨written ++ buffer, []⟩, none)
  -- Without space the loop ends, and nothing is thrown
  | .full :: answers, _ :: _ => (⟨written, answers⟩, none)
  | .failed :: answers, _ :: _ => (⟨written, answers⟩, some .outputStreamWriteFailed)
  | .wrote bytesWritten :: answers, b :: buffer =>
    writeLoop (written ++ (b :: buffer).take bytesWritten) answers
      ((b :: buffer).drop bytesWritten)

/-- `write(_:to:)`. -/
def write (buffer : Bytes) (outputStream : OutputStream) : Written :=
  writeLoop outputStream.written outputStream.answers buffer

/-- `writeBodyStream(for:to:)`. -/
def writeBodyStream : InputStream → OutputStream → Written
  | [], outputStream => (outputStream, none)
  | none :: _, outputStream => (outputStream, some .inputStreamReadFailed)
  | some buffer :: reads, outputStream =>
    if buffer.isEmpty then (outputStream, none)
    else (write buffer outputStream).andThen (writeBodyStream reads)

/-- `write(_:to:)` of a part. -/
def writePart (boundary : String) (part : BodyPart S) (outputStream : OutputStream) : Written :=
  (((write (leadingBoundary boundary part) outputStream).andThen
    (write (encodeHeaders part))).andThen
      (writeBodyStream part.bodyStream)).andThen (write (trailingBoundary boundary part))

/-- The loop of `writeEncodedData(to:)`. -/
def writeParts (boundary : String) : List (BodyPart S) → OutputStream → Written
  | [], outputStream => (outputStream, none)
  | part :: parts, outputStream =>
    (writePart boundary part outputStream).andThen (writeParts boundary parts)

/-- `f` writes `data` to every stream that takes what it is given, in pieces of any size, or
throws what `data` throws. -/
def Writes (f : OutputStream → Written)
    (data : Except MultipartEncodingFailureReason Bytes) : Prop :=
  ∀ outputStream : OutputStream, (∀ answer ∈ outputStream.answers, ∃ n, answer = .wrote n) →
    match data with
    | .ok bytes =>
      (f outputStream).2 = none ∧ (f outputStream).1.written = outputStream.written ++ bytes ∧
        ∀ answer ∈ (f outputStream).1.answers, ∃ n, answer = .wrote n
    | .error reason => (f outputStream).2 = some reason

theorem writes_write (buffer : Bytes) : Writes (write buffer) (.ok buffer) := by
  intro outputStream hanswers
  obtain ⟨written, answers⟩ := outputStream
  simp only [write]
  -- On the answers of the stream, with the buffer and what was written carried along
  induction answers generalizing written buffer with
  | nil =>
    cases buffer with
    | nil => simp [writeLoop]
    | cons b buffer => simp [writeLoop]
  | cons answer answers ih =>
    obtain ⟨⟨n, rfl⟩, hrest⟩ := List.forall_mem_cons.mp hanswers
    cases buffer with
    | nil => simpa [writeLoop] using hrest
    | cons b buffer =>
      -- What was not taken is written by the rest of the loop
      obtain ⟨hthrown, hwritten, hleft⟩ :=
        ih ((b :: buffer).drop n) (written ++ (b :: buffer).take n) hrest
      rw [writeLoop]
      refine ⟨hthrown, ?_, hleft⟩
      rw [hwritten, List.append_assoc, List.take_append_drop]

theorem Writes.andThen {f g : OutputStream → Written}
    {data next : Except MultipartEncodingFailureReason Bytes} (hf : Writes f data)
    (hg : Writes g next) :
    Writes (fun outputStream => (f outputStream).andThen g)
      (data.bind fun bytes => next.map (bytes ++ ·)) := by
  intro outputStream hanswers
  have hfirst := hf outputStream hanswers
  cases data with
  | error reason =>
    -- Nothing is written after an error
    simp only [Written.andThen, Except.bind] at hfirst ⊢
    rw [hfirst]
    exact hfirst
  | ok bytes =>
    obtain ⟨hthrown, hwritten, hleft⟩ := hfirst
    have hsecond := hg (f outputStream).1 hleft
    have hrun : (f outputStream).andThen g = g (f outputStream).1 := by
      rw [Written.andThen, hthrown]
    cases next with
    | error reason =>
      simp only [Except.bind, Except.map, hrun]
      exact hsecond
    | ok bytes' =>
      obtain ⟨hthrown', hwritten', hleft'⟩ := hsecond
      simp only [Except.bind, Except.map, hrun]
      refine ⟨hthrown', ?_, hleft'⟩
      rw [hwritten', hwritten, List.append_assoc]

theorem writes_nothing : Writes (fun outputStream => (outputStream, none)) (.ok []) := by
  intro outputStream hanswers
  exact ⟨rfl, (List.append_nil _).symm, hanswers⟩

theorem writes_bodyStream (bodyStream : InputStream) :
    Writes (writeBodyStream bodyStream) (encodeBodyStream bodyStream) := by
  induction bodyStream with
  | nil => exact writes_nothing
  | cons read reads ih =>
    cases read with
    | none =>
      intro outputStream _
      rfl
    | some buffer =>
      -- An empty buffer is the end of the stream
      cases buffer with
      | nil => exact writes_nothing
      | cons b buffer => exact (writes_write (b :: buffer)).andThen ih

theorem writes_part (boundary : String) (part : BodyPart S) :
    Writes (writePart boundary part) (encodePart boundary part) := by
  have hwrites := (((writes_write (leadingBoundary boundary part)).andThen
    (writes_write (encodeHeaders part))).andThen (writes_bodyStream part.bodyStream)).andThen
      (writes_write (trailingBoundary boundary part))
  -- The four pieces of a part in the order in which they are written
  have hdata : encodePart boundary part =
      (((Except.ok (leadingBoundary boundary part)).bind fun bytes =>
        (Except.ok (encodeHeaders part)).map (bytes ++ ·)).bind fun bytes =>
          (encodeBodyStream part.bodyStream).map (bytes ++ ·)).bind fun bytes =>
            (Except.ok (trailingBoundary boundary part)).map (bytes ++ ·) := by
    rw [encodePart]
    cases encodeBodyStream part.bodyStream with
    | error reason => rfl
    | ok bytes => rfl
  rw [hdata]
  exact hwrites

/-- The loop over the parts throws what the first part that cannot be encoded throws. -/
theorem writes_parts (boundary : String) (parts : List (BodyPart S)) :
    Writes (writeParts boundary parts) (encodeParts boundary parts) := by
  induction parts with
  | nil => exact writes_nothing
  | cons part parts ih => exact (writes_part boundary part).andThen ih

end MultipartFormData
end ThorChat.Alamofire
