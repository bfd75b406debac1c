import ThorChat.Alamofire.RequestEncoding
import ThorChat.Sources.QueryAPIs

/-!
# Where the Parameters of a Request Go

`Wrapping_APIs.APIRequest` hands a URL, a dictionary of strings and an encoding to Alamofire,
which makes a `URLRequest` of them. The parameters of a `GET` or `DELETE` follow the query that
the URL has already, and those of a `POST` or `PUT` are its body (`parameters_sent`). The resend of
a code is a `GET` without parameters, whose URL stays as it is.
-/

namespace ThorChat.Sources

open ThorChat.Alamofire
open ThorChat.Library
open ThorChat.Library.Query
open ThorChat.Runtime

variable {S : Strings}

/-- A dictionary of strings, as Alamofire takes it. -/
def stringParameters (parameters : Parameters)
    (h : KeyedList.Distinct (fun entry => S.canonical entry.1) parameters) :
    Alamofire.Parameters S where
  entries := parameters.map fun entry => (entry.1, .other entry.2)
  distinct := by
    rw [KeyedList.Distinct, List.map_map]
    exact h

/-- `RequestConvertible.asURLRequest()`, and what `UploadRequest` makes of its URL and headers
when the request is no form of parameters. -/
def HTTPRequest.asURLRequest (data : Alamofire.Parameters S → Option Data)
    (request : HTTPRequest)
    (h : KeyedList.Distinct (fun entry => S.canonical entry.1) request.parameters) :
    Option (Except ParameterEncodingFailureReason Alamofire.URLRequest) :=
  let urlRequest := Alamofire.URLRequest.make (S := S) request.urlString request.method
    (some (HTTPHeaders.ofDictionary request.headers))
  match request.encoding with
  | .url => URLEncoding.encode {} urlRequest (some (stringParameters request.parameters h))
  | .json =>
    some (JSONEncoding.encode data urlRequest (some (stringParameters request.parameters h)))
  | .multipart => some (.ok urlRequest)

/-- The items of a dictionary of strings, in the order of its keys. -/
def sortedItems (S : Strings) (parameters : Parameters) : List Item :=
  (parameters.mergeSort fun a b => !S.less b.1 a.1).map fun entry => (entry.1, some entry.2)

/-- A string is a leaf of its own, so the items are the sorted entries. -/
theorem itemsOf_stringParameters (encoding : URLEncoding) {parameters : Parameters}
    (h : KeyedList.Distinct (fun entry => S.canonical entry.1) parameters)
    (hne : parameters ≠ []) :
    encoding.itemsOf (encoding.allLeaves (stringParameters parameters h)) =
      sortedItems S parameters := by
  -- The keys are sorted, and a value does not look at its neighbours
  have hsorted : URLEncoding.sortedEntries (stringParameters parameters h) =
      (parameters.mergeSort fun a b => !S.less b.1 a.1).map fun entry =>
        (entry.1, Parameter.other entry.2) := by
    rw [URLEncoding.sortedEntries, stringParameters]
    symm
    apply List.map_mergeSort
    intro a _ b _
    rfl
  have hleaves : encoding.allLeaves (stringParameters parameters h) =
      (parameters.mergeSort fun a b => !S.less b.1 a.1).map fun entry =>
        ⟨entry.1, [], entry.2⟩ := by
    rw [URLEncoding.allLeaves, hsorted, List.flatMap_map]
    exact List.map_eq_flatMap.symm
  have hsome : (parameters.mergeSort fun a b => !S.less b.1 a.1) ≠ [] := by
    intro hnil
    exact hne ((hnil ▸ List.mergeSort_perm parameters _).nil_eq.symm)
  rw [URLEncoding.itemsOf, hleaves, if_neg (by simpa using hsome), List.map_map]
  rfl

/-- The request that is handed to Alamofire. -/
def requestOf (urlString : String) (method : HTTPMethod) (headers : List (String × String))
    (parameters : Parameters) (encoding : Encoding) : HTTPRequest :=
  { urlString := urlString, method := method, headers := headers, parameters := parameters
    encoding := encoding }

/-- What the recording surroundings find: one request, whose encoding depends on the method alone.
-/
theorem APIRequest_recording {P : Platform} {urlString : String}
    (haccepted : P.acceptsURL urlString) (connection : ConnectionType) {method : HTTPMethod}
    (hmethod : method ∈ [HTTPMethod.get, .delete, .post, .put])
    (headers : List (String × String)) (parameters : Parameters)
    (completion : Completion (List HTTPRequest)) :
    APIRequest (.recording P (some (.reachable connection))) urlString method headers parameters
      completion [] =
        some [requestOf urlString method headers parameters
          (if method ∈ [HTTPMethod.get, .delete] then .url else .json)] := by
  have hsent : APIRequest (.recording P (some (.reachable connection))) urlString method headers
      parameters completion [] =
        if P.acceptsURL urlString then
          some [requestOf urlString method headers parameters
            (if method ∈ [HTTPMethod.get, .delete] then .url else .json)]
        else none := by
    simp only [List.mem_cons, List.not_mem_nil, or_false] at hmethod
    -- Both ways to be connected pass the check, and each method has its own call
    cases connection with
    | ethernetOrWiFi => rcases hmethod with rfl | rfl | rfl | rfl <;> rfl
    | cellular => rcases hmethod with rfl | rfl | rfl | rfl <;> rfl
  rw [hsent, if_pos haccepted]

/-- The parameters that go into the URL; without any the URL is left alone. -/
theorem asURLRequest_url {urlString : String} {urlComponents : URLComponents}
    (hcomponents : URLComponents.ofURL urlString = some urlComponents) {method : HTTPMethod}
    (hquery : method ∈ [HTTPMethod.get, .delete]) (headers : List (String × String))
    (parameters : Parameters)
    (h : KeyedList.Distinct (fun entry => S.canonical entry.1) parameters)
    (data : Alamofire.Parameters S → Option Data) :
    ∃ (urlRequest : Alamofire.URLRequest) (received : URLComponents),
      (requestOf urlString method headers parameters .url).asURLRequest data h =
        some (.ok urlRequest) ∧
      urlRequest.method = some method ∧ urlRequest.httpBody = none ∧
      (parameters = [] → urlRequest.url = some urlString) ∧
      urlRequest.url.bind URLComponents.ofURL = some received ∧
      received.base = urlComponents.base ∧
      received.items = urlComponents.items.map (· ++ sortedItems S parameters) := by
  -- The default encoding puts the parameters of these two methods into the URL
  have hdestination : URLEncoding.Destination.encodesParametersInURL method
      (URLEncoding.destination {}) := by
    simp only [List.mem_cons, List.not_mem_nil, or_false] at hquery
    rcases hquery with rfl | rfl
    · decide
    · decide
  have hmethod : (Alamofire.URLRequest.make (S := S) urlString method
      (some (HTTPHeaders.ofDictionary headers))).method = some method := rfl
  by_cases hempty : parameters = []
  · -- The dictionary is empty, and the request stays as it was made
    have hentries : (stringParameters parameters h).entries = [] := by
      simpa [stringParameters] using hempty
    have hitems : sortedItems S parameters = [] := by
      rw [hempty, sortedItems, List.mergeSort_nil, List.map_nil]
    refine ⟨_, urlComponents, URLEncoding.encode_empty {} hmethod rfl hdestination hentries,
      hmethod, rfl, fun _ => rfl, hcomponents, rfl, ?_⟩
    simp [hitems]
  · have hentries : (stringParameters parameters h).entries ≠ [] := by
      simpa [stringParameters] using hempty
    obtain ⟨encoded, hencode, hbase, -, hitems⟩ :=
      URLEncoding.encode_url {} hmethod rfl hdestination hcomponents hentries
    rw [itemsOf_stringParameters _ h hempty] at hitems
    exact ⟨_, encoded, hencode, hmethod, rfl, fun hnil => absurd hnil hempty, encoded.ofURL_url,
      hbase, hitems⟩

/-- The parameters that are the body. -/
theorem asURLRequest_json (urlString : String) {method : HTTPMethod} (hget : method ≠ .get)
    (headers : List (String × String)) {parameters : Parameters}
    (h : KeyedList.Distinct (fun entry => S.canonical entry.1) parameters)
    {data : Alamofire.Parameters S → Option Data} {body : Data}
    (hdata : data (stringParameters parameters h) = some body) :
    ∃ urlRequest : Alamofire.URLRequest,
      (requestOf urlString method headers parameters .json).asURLRequest data h =
        some (.ok urlRequest) ∧
      urlRequest.valid ∧ urlRequest.method = some method ∧
      urlRequest.url = some urlString ∧ urlRequest.httpBody = some body := by
  obtain ⟨urlRequest, hurlRequest⟩ : ∃ urlRequest : Alamofire.URLRequest, urlRequest =
    .make (S := S) urlString method (some (HTTPHeaders.ofDictionary headers)) := ⟨_, rfl⟩
  have hurl : urlRequest.url = some urlString := by rw [hurlRequest]; rfl
  have hmethod : urlRequest.method = some method := by rw [hurlRequest]; rfl
  -- The body is made before the content type is looked at, and neither touches the URL
  have hencode : JSONEncoding.encode data urlRequest (some (stringParameters parameters h)) =
      .ok { urlRequest.withContentType S "application/json" with httpBody := some body } := by
    rw [JSONEncoding.encode, hdata]
  rw [hurlRequest] at hencode
  refine ⟨_, congrArg some hencode, ?_, ?_, ?_, rfl⟩
  · simp [Alamofire.URLRequest.valid, Alamofire.URLRequest.method_withContentType, ← hurlRequest,
      hmethod, hget]
  · rw [← hurlRequest]
    exact (urlRequest.method_withContentType _).trans hmethod
  · rw [← hurlRequest]
    exact (urlRequest.url_withContentType _).trans hurl

/-- The URL of an address. -/
def addressURL : URLComponents where
  base := "https://flowerbazaaar.app/address"
  percentEncodedQuery := some "customer_id=7"
  fragment := none
  base_plain := by simp
  query_encoded := by
    intro query h
    obtain rfl := Option.some.inj h
    decide

/-- The JSON text of a dictionary with a single text without quotes. -/
def singleJSON (parameters : Alamofire.Parameters Strings.sample) : Option Data :=
  match parameters.entries with
  | [(key, .other value)] => some (utf8 ("\x7b\"" ++ key ++ "\":\"" ++ value ++ "\"\x7d"))
  | _ => none

end ThorChat.Sources
