import ThorChat.Alamofire.ParameterEncoding
import ThorChat.Sources.WrappingAPIs

/-!
# Encoding Parameters into a Request

The `encode` of `URLEncoding` and of `JSONEncoding` in `ParameterEncoding.swift`, on a
`URLRequest` as `URLRequest+Alamofire.swift` makes and validates it.

## Main results

- `URLEncoding.encode_queryItems`: a query that the URL already has stays as it is, and is
  followed by the parameters; base, fragment, headers and body are left alone.
- `URLEncoding.encode_empty`: an empty dictionary, as the resend of a code passes it, leaves the
  request as it is.
- `URLEncoding.encode_httpBody`: in the body the same text is found, under a content type the
  request had or the default one, and the URL is left alone.
-/

namespace ThorChat.Alamofire

open ThorChat.Library
open ThorChat.Library.Query
open ThorChat.Runtime
open ThorChat.Sources (HTTPMethod)

/-! ## Requests -/

/-- `URLRequest`, as far as parameters are encoded into it. -/
structure URLRequest where
  url : Option String
  method : Option HTTPMethod
  /-- A dictionary, in the order it is iterated. -/
  allHTTPHeaderFields : Option (List (String × String)) := none
  httpBody : Option Data := none

namespace URLRequest

variable (S : Strings)

/-- `headers`. -/
def headers (self : URLRequest) : HTTPHeaders S :=
  (self.allHTTPHeaderFields.map HTTPHeaders.ofDictionary).getD .empty

variable {S}

/-- The setter of `headers`. -/
def setHeaders (self : URLRequest) (headers : HTTPHeaders S) : URLRequest :=
  { self with allHTTPHeaderFields := some headers.dictionary }

/-- `init(url:method:headers:)`, after the URL has been converted. -/
def make (url : String) (method : HTTPMethod) (headers : Option (HTTPHeaders S)) :
    URLRequest where
  url := some url
  method := some method
  allHTTPHeaderFields := headers.map (·.dictionary)

/-- `validate()` does not throw: no body in a GET request. -/
def valid (self : URLRequest) : Bool := !(self.method == some .get && self.httpBody.isSome)

/-- The headers come back as they were set, in some order. -/
theorem fields_setHeaders (self : URLRequest) (headers : HTTPHeaders S) :
    ((self.setHeaders headers).headers S).fields = headers.fields :=
  headers.fields_ofDictionary (List.Perm.refl _)

end URLRequest

/-- `AFError.ParameterEncodingFailureReason`. -/
inductive ParameterEncodingFailureReason where
  | missingURL
  | jsonEncodingFailed
  deriving DecidableEq, Repr

variable {S : Strings}

/-- Add a content type unless the request has one. -/
def URLRequest.withContentType (S : Strings) (self : URLRequest) (value : String) : URLRequest :=
  if ((self.headers S).value "Content-Type").isNone then
    self.setHeaders ((self.headers S).update { name := "Content-Type", value := value })
  else self

namespace URLRequest

/-- The content type is a header and leaves the URL alone. -/
theorem url_withContentType (self : URLRequest) (value : String) :
    (self.withContentType S value).url = self.url := by
  rw [withContentType]
  split
  · rfl
  · rfl

theorem method_withContentType (self : URLRequest) (value : String) :
    (self.withContentType S value).method = self.method := by
  rw [withContentType]
  split
  · rfl
  · rfl

/-- A content type that is there stays, and no other header changes. -/
theorem value_withContentType (self : URLRequest) (value name : String) :
    ((self.withContentType S value).headers S).value name =
      if S.folded name = S.folded "Content-Type" then
        some (((self.headers S).value "Content-Type").getD value)
      else (self.headers S).value name := by
  rw [withContentType]
  -- The header is set where there is none; one that is there is found under every spelling of its
  -- name
  cases hold : (self.headers S).value "Content-Type" with
  | none =>
    rw [Option.isNone_none, if_pos rfl, HTTPHeaders.value_eq, fields_setHeaders,
      HTTPHeaders.fields_update, Function.update_apply, HTTPHeaders.value_eq]
    rfl
  | some old =>
    rw [Option.isNone_some, if_neg Bool.false_ne_true]
    split
    · rename_i hname
      rw [HTTPHeaders.value_eq, hname, ← HTTPHeaders.value_eq, hold]
      rfl
    · rfl

end URLRequest

namespace URLEncoding

variable (encoding : URLEncoding)

/-- `encodesParametersInURL(for:)`. -/
def Destination.encodesParametersInURL (method : HTTPMethod) : Destination → Bool
  | .methodDependent => [.get, ⟨"HEAD"⟩, .delete].contains method
  | .queryString => true
  | .httpBody => false

/-- `percentEncodedQuery.map { $0 + "&" } ?? ""`. -/
def continued (percentEncodedQuery : Option String) : String :=
  (percentEncodedQuery.map (· ++ "&")).getD ""

/-- The branch of `encode(_:with:)` that changes the URL. -/
def encodeInURL (urlRequest : URLRequest) (parameters : Parameters S) :
    Option (Except ParameterEncodingFailureReason URLRequest) :=
  match urlRequest.url with
  | none => some (.error .missingURL)
  | some url =>
    match URLComponents.ofURL url with
    | none => some (.ok urlRequest)
    | some urlComponents =>
      if parameters.entries.isEmpty then some (.ok urlRequest)
      else
        (encoding.query parameters).bind fun query =>
          (urlComponents.setPercentEncodedQuery
            (continued urlComponents.percentEncodedQuery ++ query)).map fun urlComponents =>
              .ok { urlRequest with url := some urlComponents.url }

/-- The request with a query as its form. -/
def withForm (S : Strings) (urlRequest : URLRequest) (query : String) : URLRequest :=
  { urlRequest.withContentType S "application/x-www-form-urlencoded; charset=utf-8" with
    httpBody := some (utf8 query) }

/-- The branch that changes the body. -/
def encodeInBody (urlRequest : URLRequest) (parameters : Parameters S) :
    Option (Except ParameterEncodingFailureReason URLRequest) :=
  (encoding.query parameters).map fun query => .ok (withForm S urlRequest query)

/-- `encode(_:with:)`. -/
def encode (urlRequest : URLRequest) :
    Option (Parameters S) → Option (Except ParameterEncodingFailureReason URLRequest)
  | none => some (.ok urlRequest)
  | some parameters =>
    match urlRequest.method with
    | some method =>
      if encoding.destination.encodesParametersInURL method then
        encoding.encodeInURL urlRequest parameters
      else encoding.encodeInBody urlRequest parameters
    | none => encoding.encodeInBody urlRequest parameters

/-! ## In the URL -/

/-- Alamofire allows fewer characters in a query than a URL does. -/
theorem urlQueryAllowed_of_afURLQueryAllowed (c : Char) (h : afURLQueryAllowed c) :
    urlQueryAllowed c := by
  rw [afURLQueryAllowed, Bool.and_eq_true] at h
  exact h.1

/-- Encoded items are a query as it is. -/
theorem isPercentEncodedQuery_encodeItems (items : List (String × String)) :
    isPercentEncodedQuery (encodeItems afURLQueryAllowed items) := by
  have hitem : ∀ item : String × String,
      isPercentEncodedQuery (encodeItem afURLQueryAllowed item) := by
    intro item
    have hside := isPercentEncodedQuery_percentEncode urlQueryAllowed_of_afURLQueryAllowed
    rw [encodeItem, isPercentEncodedQuery_append (hside _),
      isPercentEncodedQuery_cons (by decide), hside]
    rfl
  -- On the items: each is encoded on both sides of its equals sign, and ampersands need no
  -- encoding
  induction items with
  | nil => rfl
  | cons item items ih =>
    cases items with
    | nil => simpa [encodeItems] using hitem item
    | cons next items =>
      have hsplit : encodeItems afURLQueryAllowed (item :: next :: items) =
          encodeItem afURLQueryAllowed item ++
            '&' :: encodeItems afURLQueryAllowed (next :: items) := by
        simp [encodeItems]
      rw [hsplit, isPercentEncodedQuery_append (hitem item),
        isPercentEncodedQuery_cons (by decide), ih]
      rfl

/-- A query that is set never makes the setter trap. -/
theorem isPercentEncodedQuery_query {parameters : Parameters S} {query : String}
    (h : encoding.query parameters = some query) : isPercentEncodedQuery query.toList := by
  rw [query_eq, Option.some.injEq] at h
  -- The items are escaped one by one, which is the encoding of the list
  have hmap : ((encoding.allLeaves parameters).map fun leaf => escaped (leaf.item encoding)) =
      ((encoding.allLeaves parameters).map (Leaf.item encoding)).map escaped := by
    rw [List.map_map]
    rfl
  rw [← h, hmap, toList_joined]
  exact isPercentEncodedQuery_encodeItems _

/-- What a server reads for leaves: without any, there is one item without a name. -/
def itemsOf (leaves : List Leaf) : List Item :=
  if leaves.isEmpty then [("", none)]
  else leaves.map fun leaf => (encoding.name leaf.key leaf.path, some leaf.text)

/-- The text of the parameters is read as their items. -/
theorem parseQuery_query (parameters : Parameters S) :
    (encoding.query parameters).bind (fun query => parseQuery query.toList) =
      some (encoding.itemsOf (encoding.allLeaves parameters)) := by
  rw [query_eq, Option.bind_some, itemsOf]
  -- A dictionary without leaves makes an empty text, which a server reads as one nameless item
  cases hleaves : encoding.allLeaves parameters with
  | nil => exact parseQuery_nil
  | cons leaf leaves => exact encoding.parseQuery_joined (List.cons_ne_nil leaf leaves)

/-- A query that is there already is followed by an ampersand. -/
theorem toList_continued (urlComponents : URLComponents) (query : String) :
    (continued urlComponents.percentEncodedQuery ++ query).toList =
      match urlComponents.percentEncodedQuery with
      | none => query.toList
      | some old => old.toList ++ '&' :: query.toList := by
  cases urlComponents.percentEncodedQuery with
  | none => simp [continued]
  | some old => simp [continued]

/-- Two encoded queries with an ampersand between are an encoded query. -/
theorem isPercentEncodedQuery_continued (urlComponents : URLComponents) {query : String}
    (h : isPercentEncodedQuery query.toList) :
    isPercentEncodedQuery (continued urlComponents.percentEncodedQuery ++ query).toList := by
  rw [toList_continued]
  cases hold : urlComponents.percentEncodedQuery with
  | none => exact h
  | some old =>
    have hencoded := urlComponents.query_encoded old hold
    simp only [isPercentEncodedQuery_append hencoded, isPercentEncodedQuery_cons
      (show '&' ≠ '%' by decide), h, Bool.and_true]
    decide

/-- What is continued is read first. -/
theorem parseQuery_continued (urlComponents : URLComponents) (query : String) :
    parseQuery (continued urlComponents.percentEncodedQuery ++ query).toList =
      urlComponents.items.bind fun items => (parseQuery query.toList).map (items ++ ·) := by
  rw [toList_continued, URLComponents.items]
  cases urlComponents.percentEncodedQuery with
  | none => simp
  | some old => exact parseQuery_append old.toList query.toList

/-- An empty dictionary leaves the request as it is. -/
theorem encode_empty {urlRequest : URLRequest} {method : HTTPMethod} {url : String}
    {parameters : Parameters S} (hmethod : urlRequest.method = some method)
    (hurl : urlRequest.url = some url)
    (hdestination : encoding.destination.encodesParametersInURL method)
    (hempty : parameters.entries = []) :
    encoding.encode urlRequest (some parameters) = some (.ok urlRequest) := by
  simp only [encode, hmethod, hdestination, if_true, encodeInURL, hurl]
  cases URLComponents.ofURL url with
  | none => rfl
  | some urlComponents => simp only [hempty, List.isEmpty_nil, if_true]

/-- Parameters go into the query of the URL, and nothing else changes. -/
theorem encode_url {urlRequest : URLRequest} {method : HTTPMethod} {url : String}
    {urlComponents : URLComponents} {parameters : Parameters S}
    (hmethod : urlRequest.method = some method) (hurl : urlRequest.url = some url)
    (hdestination : encoding.destination.encodesParametersInURL method)
    (hcomponents : URLComponents.ofURL url = some urlComponents)
    (hne : parameters.entries ≠ []) :
    ∃ encoded : URLComponents,
      encoding.encode urlRequest (some parameters) =
        some (.ok { urlRequest with url := some encoded.url }) ∧
      encoded.base = urlComponents.base ∧ encoded.fragment = urlComponents.fragment ∧
      encoded.items =
        urlComponents.items.map (· ++ encoding.itemsOf (encoding.allLeaves parameters)) := by
  obtain ⟨query, hquery⟩ : ∃ query, encoding.query parameters = some query :=
    ⟨_, encoding.query_eq parameters⟩
  have htext := encoding.isPercentEncodedQuery_query hquery
  have hread := encoding.parseQuery_query parameters
  rw [hquery, Option.bind_some] at hread
  -- The setter traps on a text that is not encoded; this one is
  obtain ⟨encoded, hset, hbase, hfragment, hencoded⟩ :=
    urlComponents.setPercentEncodedQuery_of_encoded
      (isPercentEncodedQuery_continued urlComponents htext)
  refine ⟨encoded, ?_, hbase, hfragment, ?_⟩
  · have hnonempty : parameters.entries.isEmpty = false := by simpa using hne
    simp only [encode, hmethod, hdestination, if_true, encodeInURL, hurl, hcomponents,
      hnonempty, Bool.false_eq_true, if_false, hquery, Option.bind_some, hset, Option.map_some]
  · rw [URLComponents.items_of_query hencoded, parseQuery_continued, hread]
    cases urlComponents.items with
    | none => rfl
    | some items => rfl

/-- A server that takes the URL apart finds the items it had before, followed by the
parameters. -/
theorem encode_queryItems {urlRequest : URLRequest} {method : HTTPMethod} {url : String}
    {urlComponents : URLComponents} {parameters : Parameters S}
    (hmethod : urlRequest.method = some method) (hurl : urlRequest.url = some url)
    (hdestination : encoding.destination.encodesParametersInURL method)
    (hcomponents : URLComponents.ofURL url = some urlComponents)
    (hne : parameters.entries ≠ []) :
    ∃ newURL : String, ∃ received : URLComponents,
      encoding.encode urlRequest (some parameters) =
        some (.ok { urlRequest with url := some newURL }) ∧
      URLComponents.ofURL newURL = some received ∧
      received.base = urlComponents.base ∧ received.fragment = urlComponents.fragment ∧
      received.items =
        urlComponents.items.map (· ++ encoding.itemsOf (encoding.allLeaves parameters)) := by
  obtain ⟨encoded, hencode, hbase, hfragment, hitems⟩ :=
    encoding.encode_url hmethod hurl hdestination hcomponents hne
  exact ⟨encoded.url, encoded, hencode, encoded.ofURL_url, hbase, hfragment, hitems⟩

/-- A URL with a query and a fragment of its own. -/
def queriedSample : URLComponents where
  base := "https://h/p"
  percentEncodedQuery := some "a=1"
  fragment := some "f"
  base_plain := by simp
  query_encoded := by
    intro query h
    obtain rfl := Option.some.inj h
    decide

theorem encode_queryItems_nested :
    ∃ newURL : String, ∃ received : URLComponents,
      (URLEncoding.mk .methodDependent .brackets .numeric).encode
          (.make (S := Strings.sample) queriedSample.url .get none) (some nestedSample) =
        some (.ok { URLRequest.make (S := Strings.sample) queriedSample.url .get none with
          url := some newURL }) ∧
      URLComponents.ofURL newURL = some received ∧
      received.base = "https://h/p" ∧ received.fragment = some "f" ∧
      received.items = queriedSample.items.map
        (· ++ (URLEncoding.mk .methodDependent .brackets .numeric).itemsOf
          ((URLEncoding.mk .methodDependent .brackets .numeric).allLeaves nestedSample)) :=
  encode_queryItems (.mk .methodDependent .brackets .numeric) rfl rfl (by decide)
    queriedSample.ofURL_url (List.cons_ne_nil _ _)

/-! ## In the body -/

/-- The body holds the items of the parameters, which under the default encoding of arrays read
back as their leaves, and the URL is left alone. -/
theorem encode_httpBody {urlRequest : URLRequest} (parameters : Parameters S)
    (hdestination : ∀ method, urlRequest.method = some method →
      encoding.destination.encodesParametersInURL method = false) :
    ∃ encoded : URLRequest, ∃ query : String,
      encoding.encode urlRequest (some parameters) = some (.ok encoded) ∧
      encoded.url = urlRequest.url ∧ encoded.method = urlRequest.method ∧
      encoded.httpBody.bind ofUtf8 = some query ∧
      parseQuery query.toList = some (encoding.itemsOf (encoding.allLeaves parameters)) ∧
      (encoding.arrayEncoding = .brackets →
        (∀ leaf ∈ encoding.allLeaves parameters, leaf.Plain) →
          decode query = some (encoding.allLeaves parameters)) ∧
      ∀ name, (encoded.headers S).value name =
        if S.folded name = S.folded "Content-Type" then
          some (((urlRequest.headers S).value "Content-Type").getD
            "application/x-www-form-urlencoded; charset=utf-8")
        else (urlRequest.headers S).value name := by
  obtain ⟨query, hquery⟩ : ∃ query, encoding.query parameters = some query :=
    ⟨_, encoding.query_eq parameters⟩
  have hread := encoding.parseQuery_query parameters
  rw [hquery, Option.bind_some] at hread
  -- The read back of names and paths needs the default brackets and names without brackets
  have hdecode : encoding.arrayEncoding = .brackets →
      (∀ leaf ∈ encoding.allLeaves parameters, leaf.Plain) →
        decode query = some (encoding.allLeaves parameters) := by
    intro harray hplain
    rw [query_eq, Option.some.injEq] at hquery
    rw [← hquery, encoding.decode_joined harray hplain]
  -- A request without a method goes the way of the body
  have hencode : encoding.encode urlRequest (some parameters) =
      encoding.encodeInBody urlRequest parameters := by
    rw [encode]
    cases hmethod : urlRequest.method with
    | none => rfl
    | some method => simp only [hdestination method hmethod, Bool.false_eq_true, if_false]
  refine ⟨withForm S urlRequest query, query, ?_, ?_, ?_, ?_, hread, hdecode, ?_⟩
  · rw [hencode, encodeInBody, hquery, Option.map_some]
  · exact urlRequest.url_withContentType _
  · exact urlRequest.method_withContentType _
  · exact ofUtf8_utf8 query
  · exact urlRequest.value_withContentType _

/-- A request that has a content type already. -/
def typedSample : URLRequest where
  url := some "https://h/p"
  method := some .post
  allHTTPHeaderFields := some [("content-type", "text/plain")]

/-- A form of one field, posted by such a request. -/
theorem encode_httpBody_single :
    ∃ encoded : URLRequest, ∃ query : String,
      (URLEncoding.mk .httpBody .brackets .literal).encode typedSample
          (some (Parameters.mk (S := Strings.sample) [("é", .bool true)] (by decide))) =
        some (.ok encoded) ∧
      encoded.url = some "https://h/p" ∧ encoded.method = some .post ∧
      encoded.httpBody.bind ofUtf8 = some query ∧
      decode query = some ((URLEncoding.mk .httpBody .brackets .literal).allLeaves
        (Parameters.mk (S := Strings.sample) [("é", .bool true)] (by decide))) ∧
      (encoded.headers Strings.sample).value "Content-Type" =
        some (((typedSample.headers Strings.sample).value "Content-Type").getD
          "application/x-www-form-urlencoded; charset=utf-8") := by
  have hdestination : ∀ method, typedSample.method = some method →
      Destination.encodesParametersInURL method .httpBody = false := fun _ _ => rfl
  obtain ⟨encoded, query, hencode, hurl, hmethod, hbody, -, hdecode, hheaders⟩ :=
    encode_httpBody (.mk .httpBody .brackets .literal)
      (Parameters.mk (S := Strings.sample) [("é", .bool true)] (by decide)) hdestination
  refine ⟨encoded, query, hencode, hurl, hmethod, hbody, hdecode rfl ?_, ?_⟩
  · intro leaf hleaf
    rw [allLeaves, sortedEntries, List.mergeSort_singleton] at hleaf
    obtain rfl := List.mem_singleton.mp hleaf
    exact ⟨by decide, by simp⟩
  · rw [hheaders, if_pos rfl]

end URLEncoding

/-! ## JSON -/

/-- `JSONEncoding.encode(_:with:)`; `data` is `JSONSerialization.data(withJSONObject:)`, none
where it throws. -/
def JSONEncoding.encode (data : Parameters S → Option Data) (urlRequest : URLRequest) :
    Option (Parameters S) → Except ParameterEncodingFailureReason URLRequest
  | none => .ok urlRequest
  | some parameters =>
    match data parameters with
    | some body =>
      .ok { urlRequest.withContentType S "application/json" with httpBody := some body }
    | none => .error .jsonEncodingFailed

end ThorChat.Alamofire
