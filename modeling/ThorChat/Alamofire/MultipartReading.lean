import ThorChat.Alamofire.MultipartFormData
import ThorChat.Library.Delimiter

/-!
# Reading Multipart Forms

What a server finds in an encoded form: the body is cut at the delimiters, every piece is read as
headers up to an empty line and content behind it, and the disposition of a part names its field.

## Main results

- `decodeParts_encode`: the parts of a form are read back, headers and contents, unless the
  boundary occurs in one of them.
- `decodeFields_encode_ofFields`: so are the fields of a form, unless a name holds a quote or a line break.
-/

namespace ThorChat.Alamofire.MultipartFormData

open ThorChat.Library
open ThorChat.Library.Query (utf8 utf8_append mem_utf8 ofUtf8 ofUtf8_utf8 mapM_map_eq_some)
open ThorChat.Runtime

variable {S : Strings}

/-! ## A reader -/

/-- A part as it is received. -/
structure Received where
  headers : List (Bytes × Bytes)
  content : Bytes
  deriving DecidableEq, Repr

/-- A header line. -/
def readHeader (line : Bytes) : Option (Bytes × Bytes) := Delimiter.breakAt (utf8 ": ") line

/-- The piece behind a delimiter: the rest of its line, headers, an empty line, and content. -/
def readPart (piece : Bytes) : Option Received :=
  (Delimiter.breakAt (utf8 crlf) piece).bind fun line =>
    if line.1.isEmpty then
      (Delimiter.readLines (utf8 crlf) (piece.length + 1) line.2).bind fun block =>
        (block.1.mapM readHeader).map fun headers =>
          { headers := headers, content := block.2 }
    else none

/-- A line break, two dashes and the boundary. -/
def delimiter (boundary : String) : Bytes := utf8 (crlf ++ "--" ++ boundary)

/-- What follows the last delimiter. -/
def closing : Bytes := utf8 ("--" ++ crlf)

/-- The parts of a body. -/
def decodeParts (boundary : String) (body : Bytes) : Option (List Received) :=
  match Delimiter.split (delimiter boundary) (utf8 crlf ++ body) with
  | [] :: pieces =>
    if pieces.getLast? = some closing then pieces.dropLast.mapM readPart else none
  | _ => none

/-! ## What is written -/

/-- The piece of a part. -/
def piece (part : BodyPart S × Bytes) : Bytes := utf8 crlf ++ (encodeHeaders part.1 ++ part.2)

/-- Parts with what their streams hold. -/
def Holds (parts : List (BodyPart S × Bytes)) : Prop :=
  ∀ part ∈ parts, encodeBodyStream part.1.bodyStream = .ok part.2 ∧
    part.1.hasInitialBoundary = false ∧ part.1.hasFinalBoundary = false

/-- A delimiter inside the form ends its line. -/
theorem boundaryData_encapsulated (boundary : String) :
    boundaryData boundary .encapsulated = delimiter boundary ++ utf8 crlf := by
  rw [boundaryData, delimiter, ← utf8_append]

/-- The first delimiter is like the others once a line break comes before it. -/
theorem boundaryData_initial (boundary : String) :
    utf8 crlf ++ boundaryData boundary .initial = delimiter boundary ++ utf8 crlf := by
  rw [boundaryData, delimiter, ← utf8_append, ← utf8_append]
  simp only [String.append_assoc]

/-- The last delimiter is followed by two dashes. -/
theorem boundaryData_final (boundary : String) :
    boundaryData boundary .final = delimiter boundary ++ closing := by
  rw [boundaryData, delimiter, closing, ← utf8_append]
  simp only [String.append_assoc]

/-- Every part but the first writes its delimiter and its piece. -/
theorem encodePart_eq (boundary : String) (part : BodyPart S × Bytes)
    (hstream : encodeBodyStream part.1.bodyStream = .ok part.2)
    (hinitial : part.1.hasInitialBoundary = false) :
    encodePart boundary part.1 =
      .ok (delimiter boundary ++ (piece part ++ trailingBoundary boundary part.1)) := by
  rw [encodePart, hstream, leadingBoundary, hinitial, if_neg Bool.false_ne_true,
    boundaryData_encapsulated]
  simp [Except.map, piece]

/-- The parts behind the first, and the closing delimiter. -/
theorem encodeParts_final (boundary : String) {parts : List (BodyPart S × Bytes)}
    (hne : parts ≠ []) (h : Holds parts) :
    encodeParts boundary (setFinalBoundary (parts.map (·.1))) =
      .ok (delimiter boundary ++
        (delimiter boundary).intercalate (parts.map piece ++ [closing])) := by
  -- On the parts; the closing delimiter belongs to the last of them
  induction parts with
  | nil => exact absurd rfl hne
  | cons part parts ih =>
    obtain ⟨⟨hstream, hinitial, hfinal⟩, hrest⟩ := List.forall_mem_cons.mp h
    cases parts with
    | nil =>
      have hpart := encodePart_eq boundary ({ part.1 with hasFinalBoundary := true }, part.2)
        hstream hinitial
      have htrailing : trailingBoundary boundary { part.1 with hasFinalBoundary := true } =
          delimiter boundary ++ closing := by
        rw [trailingBoundary, if_pos rfl, boundaryData_final]
      rw [htrailing] at hpart
      rw [List.map_singleton, setFinalBoundary, encodeParts, hpart]
      simp [encodeParts, Except.bind, Except.map, List.intercalate_cons_cons, piece,
        encodeHeaders]
    | cons next parts =>
      have hpart := encodePart_eq boundary part hstream hinitial
      rw [trailingBoundary, hfinal, if_neg Bool.false_ne_true, List.append_nil] at hpart
      have hparts := ih (List.cons_ne_nil next parts) hrest
      rw [List.map_cons, List.map_cons, setFinalBoundary, encodeParts, hpart, ← List.map_cons,
        hparts]
      simp [Except.bind, Except.map, List.intercalate_cons_cons]

/-- The delimiter of the first part lacks its line break. -/
theorem encodeParts_hasInitialBoundary (boundary : String) {part : BodyPart S}
    (hinitial : part.hasInitialBoundary = false) (parts : List (BodyPart S)) :
    (encodeParts boundary ({ part with hasInitialBoundary := true } :: parts)).map
        (utf8 crlf ++ ·) =
      encodeParts boundary (part :: parts) := by
  have hleading : utf8 crlf ++
      leadingBoundary boundary { part with hasInitialBoundary := true } =
        leadingBoundary boundary part := by
    rw [leadingBoundary, leadingBoundary, hinitial, if_pos rfl, if_neg Bool.false_ne_true,
      boundaryData_initial, boundaryData_encapsulated]
  rw [encodeParts, encodeParts, encodePart, encodePart]
  -- An error is the same with and without the line break
  cases encodeBodyStream part.bodyStream with
  | error reason => rfl
  | ok bytes =>
    cases encodeParts boundary parts with
    | error reason => rfl
    | ok encoded =>
      simp only [Except.map, Except.bind, ← hleading, List.append_assoc]
      rfl

/-- The mark of the first part is independent of the mark of the last, even where both are on one
part. -/
theorem setInitialBoundary_final {parts : List (BodyPart S)} (hne : parts ≠ []) :
    ∃ part rest, setFinalBoundary parts = part :: rest ∧
      part.hasInitialBoundary = (parts.head hne).hasInitialBoundary ∧
      setFinalBoundary (setInitialBoundary parts) =
        { part with hasInitialBoundary := true } :: rest := by
  cases parts with
  | nil => exact absurd rfl hne
  | cons part parts =>
    cases parts with
    | nil => exact ⟨_, _, rfl, rfl, rfl⟩
    | cons next parts => exact ⟨_, _, rfl, rfl, rfl⟩

/-- The body, with a line break before it, is the pieces between delimiters. -/
theorem encodeParts_eq (boundary : String) {parts : List (BodyPart S × Bytes)}
    (hne : parts ≠ []) (h : Holds parts) :
    ∃ body, encodeParts boundary
        (setFinalBoundary (setInitialBoundary (parts.map (·.1)))) = .ok body ∧
      utf8 crlf ++ body =
        (delimiter boundary).intercalate ([] :: (parts.map piece ++ [closing])) := by
  have hmap : parts.map (·.1) ≠ [] := by simpa using hne
  obtain ⟨part, rest, hfinal, hhead, hinitial⟩ := setInitialBoundary_final hmap
  have hencoded := encodeParts_final boundary hne h
  have hflag : part.hasInitialBoundary = false := by
    rw [hhead, List.head_map]
    exact (h _ (List.head_mem hne)).2.1
  -- The form as it is encoded has the mark, and with the line break in front it reads like the one
  -- without
  rw [hfinal, ← encodeParts_hasInitialBoundary boundary hflag rest, ← hinitial] at hencoded
  cases hbody : encodeParts boundary
      (setFinalBoundary (setInitialBoundary (parts.map (·.1)))) with
  | error reason =>
    rw [hbody] at hencoded
    cases hencoded
  | ok body =>
    rw [hbody] at hencoded
    refine ⟨body, rfl, ?_⟩
    obtain ⟨first, pieces, hpieces⟩ : ∃ first pieces,
        parts.map piece ++ [closing] = first :: pieces :=
      List.exists_cons_of_ne_nil (by simp)
    rw [hpieces] at hencoded ⊢
    rw [List.intercalate_cons_cons, List.nil_append]
    exact Except.ok.inj hencoded

/-! ## What is read -/

/-- The lines of the headers of a part. -/
def headerLines (part : BodyPart S) : List Bytes :=
  part.headers.headers.map fun header => utf8 (header.name ++ ": " ++ header.value)

/-- Headers are written as lines, and an empty line ends them. -/
theorem encodeHeaders_eq (part : BodyPart S) :
    encodeHeaders part = (headerLines part).flatMap (· ++ utf8 crlf) ++ utf8 crlf := by
  -- On the headers: the joined text is the lines, one after another
  have hjoin : ∀ headers : List HTTPHeader,
      utf8 (String.join (headers.map fun header =>
        header.name ++ ": " ++ header.value ++ crlf)) =
      (headers.map fun header => utf8 (header.name ++ ": " ++ header.value)).flatMap
        (· ++ utf8 crlf) := by
    intro headers
    induction headers with
    | nil => rfl
    | cons header headers ih =>
      rw [List.map_cons, String.join_cons, utf8_append, ih, utf8_append, List.map_cons,
        List.flatMap_cons]
  rw [encodeHeaders, utf8_append, hjoin, headerLines]

/-- No header of the part has a line break, and no name of one has a colon. -/
structure BodyPart.Plain (part : BodyPart S) : Prop where
  name : ∀ header ∈ part.headers.headers, '\r' ∉ header.name.toList ∧ ':' ∉ header.name.toList
  value : ∀ header ∈ part.headers.headers, '\r' ∉ header.value.toList

/-- The boundary is a word that occurs neither in the headers of a part nor in its content. -/
structure Separates (boundary : String) (part : BodyPart S × Bytes) : Prop where
  headers : ¬ utf8 boundary <:+: encodeHeaders part.1
  content : ¬ utf8 boundary <:+: part.2

/-- A part as it should be received. -/
def received (part : BodyPart S × Bytes) : Received where
  headers := part.1.headers.headers.map fun header => (utf8 header.name, utf8 header.value)
  content := part.2

/-- A line break is two bytes. -/
theorem utf8_crlf : utf8 crlf = [13, 10] := by decide

/-- A header line is cut at its first colon, which the name does not have. -/
theorem readHeader_line {header : HTTPHeader} (h : ':' ∉ header.name.toList) :
    readHeader (utf8 (header.name ++ ": " ++ header.value)) =
      some (utf8 header.name, utf8 header.value) := by
  have hcolon : utf8 ": " = [58, 32] := by decide
  have hname : ¬ (58 : UInt8) :: [32] <:+: utf8 header.name := by
    intro hfound
    exact h (mem_utf8 (a := 58) (by decide) (hfound.subset List.mem_cons_self))
  rw [readHeader, utf8_append, utf8_append, hcolon, List.append_assoc]
  exact Delimiter.breakAt_append (by decide) hname _

/-- A header is a line: it is not empty and no line ends in it. -/
theorem headerLines_plain {bodyPart : BodyPart S} (h : bodyPart.Plain) :
    ∀ line ∈ headerLines bodyPart, line ≠ [] ∧ ¬ (13 : UInt8) :: [10] <:+: line := by
  intro line hline
  obtain ⟨header, hheader, rfl⟩ := List.mem_map.mp hline
  refine ⟨?_, ?_⟩
  · rw [utf8_append, utf8_append]
    have hcolon : utf8 ": " ≠ [] := by decide
    simp [hcolon]
  · intro hfound
    -- A carriage return in the bytes is one in the text, as every other character has larger bytes
    have hmem := mem_utf8 (a := 13) (by decide) (hfound.subset List.mem_cons_self)
    simp only [String.toList_append, List.mem_append] at hmem
    rcases hmem with (hmem | hmem) | hmem
    · exact (h.name header hheader).1 hmem
    · exact absurd hmem (by decide)
    · exact h.value header hheader hmem

/-- A piece is read as its part. -/
theorem readPart_piece {part : BodyPart S × Bytes} (h : part.1.Plain) :
    readPart (piece part) = some (received part) := by
  have hbreak : ¬ (13 : UInt8) ∈ [(10 : UInt8)] := by decide
  -- The fuel lasts for every line, as each has its line end at least
  have hfuel : (headerLines part.1).length < (piece part).length + 1 := by
    have hlength : (headerLines part.1).length ≤
        ((headerLines part.1).flatMap (· ++ utf8 crlf)).length := by
      rw [utf8_crlf]
      induction headerLines part.1 with
      | nil => simp
      | cons line lines ih =>
        simp only [List.flatMap_cons, List.length_append, List.length_cons] at ih ⊢
        omega
    rw [piece, encodeHeaders_eq]
    simp only [List.length_append]
    omega
  have hread := Delimiter.readLines_block hbreak (headerLines_plain h) part.2 hfuel
  -- The piece starts with the line break that ends its delimiter
  have hfirst : Delimiter.breakAt (utf8 crlf) (piece part) =
      some ([], encodeHeaders part.1 ++ part.2) := by
    rw [piece, utf8_crlf]
    have hempty : ¬ (13 : UInt8) :: [10] <:+: [] := by simp
    exact Delimiter.breakAt_append hbreak hempty _
  have hheaders := mapM_map_eq_some fun (header : HTTPHeader) hheader =>
    readHeader_line (h.name header hheader).2
  rw [readPart, hfirst, Option.bind_some, encodeHeaders_eq, List.append_assoc, utf8_crlf]
  simp only [List.isEmpty_nil, if_true]
  rw [hread, Option.bind_some, headerLines, hheaders]
  rfl

/-! ## Parts -/

/-- A boundary that does not break a line. -/
def WordBoundary (boundary : String) : Prop :=
  '\r' ∉ boundary.toList ∧ '\n' ∉ boundary.toList

instance (boundary : String) : Decidable (WordBoundary boundary) :=
  inferInstanceAs (Decidable (_ ∧ _))

section Boundary

variable {boundary : String}

/-- A boundary of one line has neither byte of a line break. -/
theorem not_mem_boundary (hword : WordBoundary boundary) :
    (13 : UInt8) ∉ utf8 boundary ∧ (10 : UInt8) ∉ utf8 boundary :=
  ⟨fun hmem => hword.1 (mem_utf8 (a := 13) (by decide) hmem),
    fun hmem => hword.2 (mem_utf8 (a := 10) (by decide) hmem)⟩

/-- A delimiter starts with a byte that does not come again in it. -/
theorem delimiter_eq (boundary : String) :
    delimiter boundary = 13 :: (10 :: 45 :: 45 :: utf8 boundary) := by
  rw [delimiter, utf8_append, utf8_append, utf8_crlf]
  rfl

/-- So no two delimiters overlap. -/
theorem not_mem_delimiter (hword : WordBoundary boundary) :
    (13 : UInt8) ∉ 10 :: 45 :: 45 :: utf8 boundary := by
  simp [(not_mem_boundary hword).1]

/-- A boundary that occurs neither in the headers nor in the content of a part does not occur
across them either, as the headers end with a line break. -/
theorem Separates.piece (hword : WordBoundary boundary) {part : BodyPart S × Bytes}
    (h : Separates boundary part) : ¬ delimiter boundary <:+: piece part := by
  obtain ⟨hreturn, hfeed⟩ := not_mem_boundary hword
  intro hfound
  have hsuffix : utf8 boundary <:+ delimiter boundary := by
    rw [delimiter_eq]
    exact List.suffix_append [13, 10, 45, 45] (utf8 boundary)
  have hboundary := hsuffix.isInfix.trans hfound
  obtain ⟨front, hfront⟩ : ∃ front, encodeHeaders part.1 = front ++ [13, 10] :=
    ⟨_, (encodeHeaders_eq part.1).trans (by rw [utf8_crlf])⟩
  have hpiece : MultipartFormData.piece part =
      [13] ++ 10 :: ((front ++ [13]) ++ 10 :: part.2) := by
    rw [MultipartFormData.piece, hfront, utf8_crlf]
    simp
  -- The boundary has no line feed, so it lies on one side of each
  rw [hpiece] at hboundary
  rcases Delimiter.infix_append_cons hfeed hboundary with hfirst | hrest
  · -- Only the empty word is inside a single line break
    have hempty : utf8 boundary <:+: [] := by
      have hsingle : utf8 boundary <:+: [] ++ (13 : UInt8) :: [] := hfirst
      rcases Delimiter.infix_append_cons hreturn hsingle with hnil | hnil
      · exact hnil
      · exact hnil
    exact h.content (hempty.trans (List.nil_infix))
  · rcases Delimiter.infix_append_cons hfeed hrest with hheaders | hcontent
    · apply h.headers
      rw [hfront]
      exact hheaders.trans ⟨[], [10], by simp⟩
    · exact h.content hcontent

/-- What closes the body is too short to hold another delimiter. -/
theorem not_infix_closing (boundary : String) : ¬ delimiter boundary <:+: closing := by
  have hclosing : closing = [45, 45, 13, 10] := by decide
  rw [delimiter_eq, hclosing]
  rintro ⟨before, after, heq⟩
  have hlength := congrArg List.length heq
  -- Two bytes are left behind the dashes at most, and a delimiter has four
  match before with
  | [] => simp at heq
  | [b] => simp at heq
  | b :: c :: before =>
    simp only [List.length_append, List.length_cons, List.length_nil] at hlength
    omega

/-- The parts of a form are read back. -/
theorem decodeParts_encodeParts (hword : WordBoundary boundary)
    {parts : List (BodyPart S × Bytes)} (hne : parts ≠ []) (hholds : Holds parts)
    (hplain : ∀ part ∈ parts, part.1.Plain)
    (hseparates : ∀ part ∈ parts, Separates boundary part) :
    ∃ body, encodeParts boundary
        (setFinalBoundary (setInitialBoundary (parts.map (·.1)))) = .ok body ∧
      decodeParts boundary body = some (parts.map received) := by
  obtain ⟨body, hencode, hbody⟩ := encodeParts_eq boundary hne hholds
  refine ⟨body, hencode, ?_⟩
  -- The delimiter is in no piece, so the cuts are where the delimiters were written
  have htexts : ∀ text ∈ [] :: (parts.map piece ++ [closing]),
      ¬ delimiter boundary <:+: text := by
    intro text htext
    simp only [List.mem_cons, List.mem_append, List.mem_map, List.not_mem_nil, or_false] at htext
    rcases htext with rfl | ⟨part, hpart, rfl⟩ | rfl
    · rw [delimiter_eq]
      simp
    · exact (hseparates part hpart).piece hword
    · exact not_infix_closing boundary
  have hsplit : Delimiter.split (delimiter boundary) (utf8 crlf ++ body) =
      [] :: (parts.map piece ++ [closing]) := by
    rw [hbody]
    rw [delimiter_eq] at htexts ⊢
    exact Delimiter.split_intercalate (not_mem_delimiter hword) (List.cons_ne_nil _ _) htexts
  rw [decodeParts, hsplit]
  simp only [List.getLast?_append, List.getLast?_singleton, Option.some_or, if_true,
    List.dropLast_concat]
  exact mapM_map_eq_some fun part hpart => readPart_piece (hplain part hpart)

end Boundary

/-- Parts are appended without the marks of the first and the last. -/
theorem Append.unmarked {call : Append S} {part : BodyPart S} (h : call.part = .ok part) :
    part.hasInitialBoundary = false ∧ part.hasFinalBoundary = false := by
  have hchecked : ∀ (found : Except MultipartEncodingFailureReason (InputStream × Nat))
      (headers : HTTPHeaders S),
      (found.map fun found => ({ headers := headers, bodyStream := found.1
                                 bodyContentLength := found.2 } : BodyPart S)) = .ok part →
        part.hasInitialBoundary = false ∧ part.hasFinalBoundary = false := by
    intro found headers hpart
    cases found with
    | error reason => cases hpart
    | ok found =>
      obtain rfl := Except.ok.inj hpart
      exact ⟨rfl, rfl⟩
  -- Four ways to append a part, and each makes it with both marks off
  cases call with
  | data bytes name fileName mimeType =>
    obtain rfl := Except.ok.inj h
    exact ⟨rfl, rfl⟩
  | file fileURL name fileName mimeType => exact hchecked _ _ h
  | namedFile fileURL name mimeType =>
    rw [Append.part] at h
    split at h
    · exact hchecked _ _ h
    · cases h
  | stream bodyStream length headers =>
    obtain rfl := Except.ok.inj h
    exact ⟨rfl, rfl⟩

/-- A form of any parts that could be appended is read back: their headers, and what their
streams hold. -/
theorem decodeParts_encode {boundary : String} (hword : WordBoundary boundary)
    {calls : List (Append S)} (hne : calls ≠ []) {parts : List (BodyPart S × Bytes)}
    (hparts : List.Forall₂ (fun call part => call.part = .ok part.1 ∧
      encodeBodyStream part.1.bodyStream = .ok part.2) calls parts)
    (hplain : ∀ part ∈ parts, part.1.Plain)
    (hseparates : ∀ part ∈ parts, Separates boundary part) :
    ∃ body, (calls.foldl append { boundary := boundary }).encode = .ok body ∧
      decodeParts boundary body = some (parts.map received) := by
  -- On the calls: each appends its part, and none of them sets the error
  have happended : calls.filterMap (fun call => call.part.toOption) = parts.map (·.1) ∧
      calls.findSome? Append.error = none ∧ Holds parts := by
    clear hne hplain hseparates
    induction hparts with
    | nil => exact ⟨rfl, rfl, fun _ h => absurd h List.not_mem_nil⟩
    | @cons call part calls parts hhead htail ih =>
      obtain ⟨hmap, herror, hholds⟩ := ih
      obtain ⟨hcall, hstream⟩ := hhead
      obtain ⟨hinitial, hfinal⟩ := Append.unmarked hcall
      refine ⟨?_, ?_, List.forall_mem_cons.mpr ⟨⟨hstream, hinitial, hfinal⟩, hholds⟩⟩
      · rw [List.filterMap_cons, hcall, hmap]
        rfl
      · simp [Append.error, hcall, herror]
  obtain ⟨hmap, herror, hholds⟩ := happended
  -- Every call has its part, so there is a part as there is a call
  have hnonempty : parts ≠ [] := by
    intro hnil
    rw [hnil] at hparts
    cases hparts
    exact hne rfl
  obtain ⟨body, hencode, hdecode⟩ :=
    decodeParts_encodeParts hword hnonempty hholds hplain hseparates
  refine ⟨body, ?_, hdecode⟩
  rw [run_append, hmap, herror]
  exact hencode

/-! ## Fields -/

/-- A field of a form. -/
structure Field where
  name : String
  fileName : Option String := none
  mimeType : Option String := none
  content : Bytes
  deriving DecidableEq, Repr

/-- Read a quoted word behind a text. -/
def readQuoted (text bytes : Bytes) : Option (String × Bytes) :=
  if text.isPrefixOf bytes then
    (Delimiter.breakAt (utf8 "\"") (bytes.drop text.length)).bind fun quoted =>
      (ofUtf8 quoted.1).map fun word => (word, quoted.2)
  else none

/-- Read the name and the file name of a disposition. -/
def readDisposition (disposition : Bytes) : Option (String × Option String) :=
  (readQuoted (utf8 "form-data; name=\"") disposition).bind fun name =>
    if name.2.isEmpty then some (name.1, none)
    else
      (readQuoted (utf8 "; filename=\"") name.2).map fun fileName =>
        (name.1, some fileName.1)

/-- Read the field of a part. -/
def readField (part : Received) : Option Field :=
  match part.headers with
  | [(_, disposition)] =>
    (readDisposition disposition).map fun names =>
      { name := names.1, fileName := names.2, content := part.content }
  | [(_, disposition), (_, contentType)] =>
    (readDisposition disposition).bind fun names =>
      (ofUtf8 contentType).map fun mimeType =>
        { name := names.1, fileName := names.2, mimeType := some mimeType
          content := part.content }
  | _ => none

/-- The fields of a body. -/
def decodeFields (boundary : String) (body : Bytes) : Option (List Field) :=
  (decodeParts boundary body).bind fun parts => parts.mapM readField

/-- The form with a list of fields. -/
def ofFields (S : Strings) (boundary : String) (fields : List Field) : MultipartFormData S :=
  (fields.map fun field =>
    Append.data field.content field.name field.fileName field.mimeType).foldl append
      { boundary := boundary }

/-- The value of the disposition of a field. -/
def disposition (field : Field) : String :=
  "form-data; name=\"" ++ field.name ++ "\"" ++
    (field.fileName.map fun fileName => "; filename=\"" ++ fileName ++ "\"").getD ""

/-- The part of a field. -/
def fieldPart (S : Strings) (field : Field) : BodyPart S where
  headers := contentHeaders field.name field.fileName field.mimeType
  bodyStream := streamOfData field.content
  bodyContentLength := field.content.length

/-- No name ends early. -/
structure Field.Plain (field : Field) : Prop where
  name : '"' ∉ field.name.toList ∧ '\r' ∉ field.name.toList
  fileName : ∀ fileName, field.fileName = some fileName →
    '"' ∉ fileName.toList ∧ '\r' ∉ fileName.toList
  mimeType : ∀ mimeType, field.mimeType = some mimeType → '\r' ∉ mimeType.toList

/-- The names of the two headers are told apart. -/
def TellsHeaders (S : Strings) : Prop :=
  S.folded "Content-Disposition" ≠ S.folded "Content-Type"

instance (S : Strings) : Decidable (TellsHeaders S) := inferInstanceAs (Decidable (_ ≠ _))

/-- The headers of a field: its disposition, and its type if it has one. -/
theorem headers_contentHeaders (hS : TellsHeaders S) (field : Field) :
    (contentHeaders field.name field.fileName field.mimeType : HTTPHeaders S).headers =
      { name := "Content-Disposition", value := disposition field } ::
        (field.mimeType.map fun mimeType =>
          { name := "Content-Type", value := mimeType }).toList := by
  cases hmime : field.mimeType with
  | none => rfl
  | some mimeType =>
    have hdisposition : (contentHeaders field.name field.fileName (some mimeType) :
        HTTPHeaders S).headers = KeyedList.upsert (HTTPHeader.key S)
          { name := "Content-Type", value := mimeType }
          [{ name := "Content-Disposition", value := disposition field }] := by
      rw [contentHeaders, HTTPHeaders.headers_update]
      rfl
    rw [hdisposition, KeyedList.upsert, HTTPHeader.key, HTTPHeader.key, if_neg hS,
      KeyedList.upsert]
    rfl

/-- A stream of data gives the data back, however many buffers it takes. -/
theorem encodeBodyStream_streamOfData (bytes : Bytes) :
    encodeBodyStream (streamOfData bytes) = .ok bytes := by
  -- On the length: one buffer is read, and what is left is shorter
  induction hlength : bytes.length using Nat.strongRecOn generalizing bytes with
  | ind n ih =>
    rw [streamOfData]
    cases bytes with
    | nil => rfl
    | cons b bytes =>
      have hrest := ih ((b :: bytes).drop streamBufferSize).length (by
        rw [← hlength, List.length_drop, List.length_cons, streamBufferSize]
        omega) _ rfl
      have hbuffer : ((b :: bytes).take streamBufferSize).isEmpty = false := by
        simp [streamBufferSize]
      rw [List.isEmpty_cons, if_neg Bool.false_ne_true, encodeBodyStream, hbuffer,
        if_neg Bool.false_ne_true, hrest]
      exact congrArg Except.ok (List.take_append_drop streamBufferSize (b :: bytes))

/-- The fields become the parts, one by one. -/
theorem ofFields_eq (boundary : String) (fields : List Field) :
    ofFields S boundary fields =
      { boundary := boundary, bodyParts := fields.map (fieldPart S) } := by
  have hparts : ∀ fields : List Field,
      (fields.map fun field => Append.data (S := S) field.content field.name field.fileName
        field.mimeType).filterMap (fun call => call.part.toOption) =
          fields.map (fieldPart S) := by
    intro fields
    induction fields with
    | nil => rfl
    | cons field fields ih => rw [List.map_cons, List.filterMap_cons, ih]; rfl
  -- Data can always be appended
  have herrors : ∀ fields : List Field,
      (fields.map fun field => Append.data (S := S) field.content field.name field.fileName
        field.mimeType).findSome? Append.error = none := by
    intro fields
    induction fields with
    | nil => rfl
    | cons field fields ih => rw [List.map_cons, List.findSome?_cons, ih]; rfl
  rw [ofFields, run_append, hparts, herrors]
  rfl

/-- A word between quotes is read up to the first quote. -/
theorem readQuoted_append (text : String) {word : String} (h : '"' ∉ word.toList) (rest : Bytes) :
    readQuoted (utf8 text) (utf8 (text ++ word ++ "\"") ++ rest) = some (word, rest) := by
  have hquote : utf8 "\"" = [34] := by decide
  have hword : ¬ (34 : UInt8) :: [] <:+: utf8 word := by
    intro hfound
    exact h (mem_utf8 (a := 34) (by decide) (hfound.subset List.mem_cons_self))
  have htext : utf8 (text ++ word ++ "\"") ++ rest =
      utf8 text ++ (utf8 word ++ ((34 : UInt8) :: [] ++ rest)) := by
    rw [utf8_append, utf8_append, hquote]
    simp
  have hstart : (utf8 text).isPrefixOf
      (utf8 text ++ (utf8 word ++ ((34 : UInt8) :: [] ++ rest))) = true := by
    rw [List.isPrefixOf_iff_prefix]
    exact List.prefix_append _ _
  rw [readQuoted, htext, if_pos hstart, List.drop_left, hquote,
    Delimiter.breakAt_append (by simp) hword]
  simp

/-- The disposition of a field that is not a file. -/
theorem disposition_of_none {field : Field} (h : field.fileName = none) :
    disposition field = "form-data; name=\"" ++ field.name ++ "\"" := by
  unfold disposition
  rw [h, Option.map_none, Option.getD_none, String.append_empty]

/-- The disposition of a file. -/
theorem disposition_of_some {field : Field} {fileName : String}
    (h : field.fileName = some fileName) :
    disposition field = "form-data; name=\"" ++ field.name ++ "\"" ++
      ("; filename=\"" ++ fileName ++ "\"") := by
  unfold disposition
  rw [h, Option.map_some, Option.getD_some]

/-- The names are read back from the disposition. -/
theorem readDisposition_disposition {field : Field} (h : field.Plain) :
    readDisposition (utf8 (disposition field)) = some (field.name, field.fileName) := by
  cases hfile : field.fileName with
  | none =>
    have hname := readQuoted_append "form-data; name=\"" h.name.1 []
    rw [List.append_nil, ← disposition_of_none hfile] at hname
    rw [readDisposition, hname]
    rfl
  | some fileName =>
    have hname := readQuoted_append "form-data; name=\"" h.name.1
      (utf8 ("; filename=\"" ++ fileName ++ "\"") ++ [])
    have hquoted := readQuoted_append "; filename=\"" (h.fileName fileName hfile).1 []
    have hrest : (utf8 ("; filename=\"" ++ fileName ++ "\"") ++ []).isEmpty = false := by
      have hstart : utf8 "; filename=\"" ≠ [] := by decide
      rw [utf8_append, utf8_append]
      simp [hstart]
    rw [List.append_nil, ← utf8_append, ← disposition_of_some hfile] at hname
    rw [List.append_nil] at hrest hquoted
    rw [readDisposition, hname, Option.bind_some, hrest, if_neg Bool.false_ne_true, hquoted]
    rfl

/-- A field is read back from its part. -/
theorem readField_received (hS : TellsHeaders S) {field : Field} (h : field.Plain) :
    readField (received (fieldPart S field, field.content)) = some field := by
  have hheaders := headers_contentHeaders hS field
  have hread := readDisposition_disposition h
  rw [readField, received]
  simp only [fieldPart, hheaders]
  cases hmime : field.mimeType with
  | none =>
    simp only [Option.map_none, Option.toList_none, List.map_cons, List.map_nil, hread,
      Option.map_some]
    rw [← hmime]
  | some mimeType =>
    simp only [Option.map_some, Option.toList_some, List.map_cons, List.map_nil, hread,
      Option.bind_some, ofUtf8_utf8]
    rw [← hmime]

/-- Without a line break in its names a field makes a part without one in its headers. -/
theorem plain_fieldPart (hS : TellsHeaders S) {field : Field} (h : field.Plain) :
    (fieldPart S field).Plain := by
  have hheaders := headers_contentHeaders hS field
  -- The part has the two headers at most, and their names are fixed
  have hcases : ∀ header ∈ (fieldPart S field).headers.headers,
      header = { name := "Content-Disposition", value := disposition field } ∨
        ∃ mimeType, field.mimeType = some mimeType ∧
          header = { name := "Content-Type", value := mimeType } := by
    intro header hheader
    rw [fieldPart, hheaders, List.mem_cons, Option.mem_toList, Option.map_eq_some_iff] at hheader
    rcases hheader with hheader | ⟨mimeType, hmime, hheader⟩
    · exact Or.inl hheader
    · exact Or.inr ⟨mimeType, hmime, hheader.symm⟩
  apply BodyPart.Plain.mk
  case name =>
    intro header hheader
    have hnames : ∀ name ∈ ["Content-Disposition", "Content-Type"],
        '\r' ∉ name.toList ∧ ':' ∉ name.toList := by decide
    rcases hcases header hheader with rfl | ⟨mimeType, -, rfl⟩
    · exact hnames _ (by simp)
    · exact hnames _ (by simp)
  case value =>
    intro header hheader
    rcases hcases header hheader with rfl | ⟨mimeType, hmime, rfl⟩
    · -- The texts around the names have no line break
      have htexts : ∀ text ∈ ["form-data; name=\"", "\"", "; filename=\"", ""],
          '\r' ∉ text.toList := by decide
      have hname := h.name.2
      cases hfile : field.fileName with
      | none =>
        rw [disposition_of_none hfile, String.toList_append, String.toList_append,
          List.mem_append, List.mem_append, not_or, not_or]
        exact ⟨⟨htexts _ (by simp), hname⟩, htexts _ (by simp)⟩
      | some fileName =>
        have hfileName := (h.fileName fileName hfile).2
        have hmem : ∀ start word : String, '\r' ∉ start.toList → '\r' ∉ word.toList →
            '\r' ∉ (start ++ word ++ "\"").toList := by
          intro start word hstart hword
          rw [String.toList_append, String.toList_append, List.mem_append, List.mem_append,
            not_or, not_or]
          exact ⟨⟨hstart, hword⟩, htexts _ (by simp)⟩
        rw [disposition_of_some hfile, String.toList_append, List.mem_append, not_or]
        exact ⟨hmem _ _ (htexts _ (by simp)) hname, hmem _ _ (htexts _ (by simp)) hfileName⟩
    · exact h.mimeType mimeType hmime

/-- The fields of a form are read back. -/
theorem decodeFields_encode_ofFields (hS : TellsHeaders S) {boundary : String}
    (hword : WordBoundary boundary) {fields : List Field} (hne : fields ≠ [])
    (hplain : ∀ field ∈ fields, field.Plain)
    (hseparates : ∀ field ∈ fields, Separates boundary (fieldPart S field, field.content)) :
    ∃ body, (ofFields S boundary fields).encode = .ok body ∧
      decodeFields boundary body = some fields := by
  have hparts : (fields.map fun field => (fieldPart S field, field.content)).map (·.1) =
      fields.map (fieldPart S) := by
    rw [List.map_map]
    rfl
  have hmem : ∀ part ∈ fields.map fun field => (fieldPart S field, field.content),
      ∃ field ∈ fields, part = (fieldPart S field, field.content) := by
    intro part hpart
    obtain ⟨field, hfield, rfl⟩ := List.mem_map.mp hpart
    exact ⟨field, hfield, rfl⟩
  have hholds : Holds (fields.map fun field => (fieldPart S field, field.content)) := by
    intro part hpart
    obtain ⟨field, -, rfl⟩ := hmem part hpart
    exact ⟨encodeBodyStream_streamOfData field.content, rfl, rfl⟩
  obtain ⟨body, hencode, hdecode⟩ := decodeParts_encodeParts hword (by simpa using hne) hholds
    (by
      intro part hpart
      obtain ⟨field, hfield, rfl⟩ := hmem part hpart
      exact plain_fieldPart hS (hplain field hfield))
    (by
      intro part hpart
      obtain ⟨field, hfield, rfl⟩ := hmem part hpart
      exact hseparates field hfield)
  -- Each part is read as its field, so the list is read as the list
  have hfields : ((fields.map fun field => (fieldPart S field, field.content)).map received).mapM
      readField = some fields := by
    rw [List.map_map]
    exact (mapM_map_eq_some fun field hfield =>
      readField_received hS (hplain field hfield)).trans (congrArg some (List.map_id fields))
  refine ⟨body, ?_, ?_⟩
  · rw [ofFields_eq]
    rw [hparts] at hencode
    exact hencode
  · rw [decodeFields, hdecode, Option.bind_some, hfields]

/-! ## A form of two parts -/

/-- Lower case keeps the two names apart. -/
theorem tellsHeaders_sample : TellsHeaders Strings.sample := by decide

/-- A text that looks like a delimiter, and a stream that is read in two pieces. -/
def mixedCalls : List (Append Strings.sample) :=
  [.data (utf8 "\r\n--b\r\n") "note" none none,
    .stream [some [1], some [2, 3]] 3 (.ofHeaders [{ name := "X", value := "y: z" }])]

/-- The parts of these calls, with their contents. -/
def mixedParts : List (BodyPart Strings.sample × Bytes) :=
  [(fieldPart _ { name := "note", content := utf8 "\r\n--b\r\n" }, utf8 "\r\n--b\r\n"),
    ({ headers := .ofHeaders [{ name := "X", value := "y: z" }]
       bodyStream := [some [1], some [2, 3]], bodyContentLength := 3 }, [1, 2, 3])]

theorem decodeParts_encode_mixed :
    ∃ body, (mixedCalls.foldl append { boundary := "b1" }).encode = .ok body ∧
      decodeParts "b1" body = some (mixedParts.map received) := by
  apply decodeParts_encode
  case hword => decide
  case hne => exact List.cons_ne_nil _ _
  case hparts =>
    exact .cons ⟨rfl, encodeBodyStream_streamOfData _⟩ (.cons ⟨rfl, rfl⟩ .nil)
  case hplain =>
    intro part hpart
    simp only [mixedParts, List.mem_cons, List.not_mem_nil, or_false] at hpart
    rcases hpart with rfl | rfl
    · exact ⟨by decide, by decide⟩
    · exact ⟨by decide, by decide⟩
  case hseparates =>
    intro part hpart
    simp only [mixedParts, List.mem_cons, List.not_mem_nil, or_false] at hpart
    rcases hpart with rfl | rfl
    · exact ⟨by decide, by decide⟩
    · exact ⟨by decide, by decide⟩

end ThorChat.Alamofire.MultipartFormData
