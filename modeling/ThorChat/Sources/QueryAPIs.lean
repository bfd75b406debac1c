import ThorChat.Library.Query
import ThorChat.Sources.RequestCompletion

/-!
# The Functions That Write Their Query by Hand

Five functions `API_*` concatenate persisted and passed strings into the URL they request, and
the request layer unwraps `URL(string:)` of it by force. The `parameters` of the same request
go through Alamofire, which escapes them; these strings do not.

## What the concatenation carries

- Every URL is a base, a `?` and the rendered items (`urlString_eq`).
- The request is sent, and its query read back as these items, exactly if the values hold only
  characters allowed in a query and none of `&`, `#` and `%` (`query_read_back_iff`).
-/

namespace ThorChat.Sources

open ThorChat.Library.Query
open ThorChat.Runtime

namespace URLs

def ProductPreview : String := BASE_URL ++ "customer/get/product/details?"
def Addfevorateseller : String :=
  BASE_URL ++ "mark/this/seller/as/favourite/to/this/customer?customer_id="
def AddfevoratesellerProduct : String :=
  BASE_URL ++ "mark/this/seller/product/as/favourite/to/this/customer?customer_id="
def SavedAddressDetails : String :=
  BASE_URL ++ "get/this/customer/address/details?customer_id="
def DeleteAddress : String := BASE_URL ++ "delete/customer/address/details?customer_id="

end URLs

/-! ## The functions -/

section Functions

variable {σ : Type} (net : Network σ) (defaults : UserDefaults)

/-- `API_ProductPreview_Data_LIST`. -/
def API_ProductPreview_Data_LIST (CityId seller_product_listing_history_id : String)
    (paramater : Parameters) (completion : Completion σ) : σ → Option σ :=
  let CustomerID := defaults.CustomerID.getD ""
  let additionaurl := "customer_id=" ++ CustomerID ++ "&seller_product_listing_history_id=" ++
    seller_product_listing_history_id ++ "&city_id=" ++ CityId
  APIRequest net (URLs.ProductPreview ++ additionaurl) .get (jsonHeaders defaults) paramater
    completion

/-- `API_Delete_Address_LIST`. -/
def API_Delete_Address_LIST (addressid : String) (paramater : Parameters)
    (completion : Completion σ) : σ → Option σ :=
  let CustomerID := defaults.CustomerID.getD ""
  APIRequest net (URLs.DeleteAddress ++ CustomerID ++ "&customer_address_id=" ++ addressid)
    .get (jsonHeaders defaults) paramater completion

/-- `API_Add_Fevarate_Seller_LIST`. -/
def API_Add_Fevarate_Seller_LIST (mark_status_seller sellerID : String)
    (paramater : Parameters) (completion : Completion σ) : σ → Option σ :=
  let CustomerID := defaults.CustomerID.getD ""
  APIRequest net (URLs.Addfevorateseller ++ CustomerID ++ "&seller_id=" ++ sellerID ++
    "&mark_status_seller=" ++ mark_status_seller) .get (jsonHeaders defaults) paramater completion

/-- `API_Add_Fevarate_Seller_Product_LIST`. -/
def API_Add_Fevarate_Seller_Product_LIST (mark_status sellerID ProductID : String)
    (paramater : Parameters) (completion : Completion σ) : σ → Option σ :=
  let CustomerID := defaults.CustomerID.getD ""
  APIRequest net (URLs.AddfevoratesellerProduct ++ CustomerID ++ "&seller_id=" ++ sellerID ++
    "&seller_product_listing_id=" ++ ProductID ++ "&mark_status=" ++ mark_status)
    .get (jsonHeaders defaults) paramater completion

/-- `API_Saved_Address_Details_Data_LIST`. -/
def API_Saved_Address_Details_Data_LIST (customer_address_id : String)
    (paramater : Parameters) (completion : Completion σ) : σ → Option σ :=
  let CustomerID := defaults.CustomerID.getD ""
  APIRequest net (URLs.SavedAddressDetails ++ CustomerID ++ "&customer_address_id=" ++
    customer_address_id) .get (jsonHeaders defaults) paramater completion

end Functions

/-- A call of one of the functions, by the strings it is passed. -/
inductive QueryCall where
  | API_ProductPreview_Data_LIST (CityId seller_product_listing_history_id : String)
  | API_Delete_Address_LIST (addressid : String)
  | API_Add_Fevarate_Seller_LIST (mark_status_seller sellerID : String)
  | API_Add_Fevarate_Seller_Product_LIST (mark_status sellerID ProductID : String)
  | API_Saved_Address_Details_Data_LIST (customer_address_id : String)

namespace QueryCall

/-- Make the call. -/
def run {σ : Type} (net : Network σ) (defaults : UserDefaults) (call : QueryCall)
    (paramater : Parameters) (completion : Completion σ) : σ → Option σ :=
  match call with
  | .API_ProductPreview_Data_LIST CityId seller_product_listing_history_id =>
    Sources.API_ProductPreview_Data_LIST net defaults CityId seller_product_listing_history_id
      paramater completion
  | .API_Delete_Address_LIST addressid =>
    Sources.API_Delete_Address_LIST net defaults addressid paramater completion
  | .API_Add_Fevarate_Seller_LIST mark_status_seller sellerID =>
    Sources.API_Add_Fevarate_Seller_LIST net defaults mark_status_seller sellerID paramater
      completion
  | .API_Add_Fevarate_Seller_Product_LIST mark_status sellerID ProductID =>
    Sources.API_Add_Fevarate_Seller_Product_LIST net defaults mark_status sellerID ProductID
      paramater completion
  | .API_Saved_Address_Details_Data_LIST customer_address_id =>
    Sources.API_Saved_Address_Details_Data_LIST net defaults customer_address_id paramater
      completion

/-- The path each call means to request. -/
def path : QueryCall → String
  | .API_ProductPreview_Data_LIST .. => "customer/get/product/details"
  | .API_Delete_Address_LIST .. => "delete/customer/address/details"
  | .API_Add_Fevarate_Seller_LIST .. => "mark/this/seller/as/favourite/to/this/customer"
  | .API_Add_Fevarate_Seller_Product_LIST .. =>
    "mark/this/seller/product/as/favourite/to/this/customer"
  | .API_Saved_Address_Details_Data_LIST .. => "get/this/customer/address/details"

/-- The keys and values each call means to send, the persisted customer first. -/
def items (CustomerID : String) : QueryCall → List (String × String)
  | .API_ProductPreview_Data_LIST CityId seller_product_listing_history_id =>
    [("customer_id", CustomerID),
     ("seller_product_listing_history_id", seller_product_listing_history_id),
     ("city_id", CityId)]
  | .API_Delete_Address_LIST addressid =>
    [("customer_id", CustomerID), ("customer_address_id", addressid)]
  | .API_Add_Fevarate_Seller_LIST mark_status_seller sellerID =>
    [("customer_id", CustomerID), ("seller_id", sellerID),
     ("mark_status_seller", mark_status_seller)]
  | .API_Add_Fevarate_Seller_Product_LIST mark_status sellerID ProductID =>
    [("customer_id", CustomerID), ("seller_id", sellerID),
     ("seller_product_listing_id", ProductID), ("mark_status", mark_status)]
  | .API_Saved_Address_Details_Data_LIST customer_address_id =>
    [("customer_id", CustomerID), ("customer_address_id", customer_address_id)]

/-- The URL a call requests. -/
def urlString (defaults : UserDefaults) (call : QueryCall) : String :=
  URLs.BASE_URL ++ call.path ++ "?" ++
    String.ofList (render (call.items (defaults.CustomerID.getD "")))

variable {σ : Type} (defaults : UserDefaults) (call : QueryCall)

/-- What the functions concatenate is a base, a `?` and the rendered items. -/
theorem run_eq (net : Network σ) (paramater : Parameters) (completion : Completion σ) :
    call.run net defaults paramater completion =
      APIRequest net (call.urlString defaults) .get (jsonHeaders defaults) paramater
        completion := by
  -- Each literal is cut where the rendering cuts it
  cases call with
  | API_ProductPreview_Data_LIST CityId seller_product_listing_history_id =>
    have hbase : "customer/get/product/details?" = "customer/get/product/details" ++ "?" := rfl
    have hcustomer : "customer_id=" = "customer_id" ++ "=" := rfl
    have hhistory : "&seller_product_listing_history_id=" =
        "&" ++ ("seller_product_listing_history_id" ++ "=") := rfl
    have hcity : "&city_id=" = "&" ++ ("city_id" ++ "=") := rfl
    refine congrArg (APIRequest net · .get (jsonHeaders defaults) paramater completion) ?_
    simp only [urlString, path, items, URLs.ProductPreview, ofList_render_cons,
      ofList_render_singleton, hbase, hcustomer, hhistory, hcity, String.append_assoc]
  | API_Delete_Address_LIST addressid =>
    have hbase : "delete/customer/address/details?customer_id=" =
        "delete/customer/address/details" ++ ("?" ++ ("customer_id" ++ "=")) := rfl
    have haddress : "&customer_address_id=" = "&" ++ ("customer_address_id" ++ "=") := rfl
    refine congrArg (APIRequest net · .get (jsonHeaders defaults) paramater completion) ?_
    simp only [urlString, path, items, URLs.DeleteAddress, ofList_render_cons,
      ofList_render_singleton, hbase, haddress, String.append_assoc]
  | API_Add_Fevarate_Seller_LIST mark_status_seller sellerID =>
    have hbase : "mark/this/seller/as/favourite/to/this/customer?customer_id=" =
        "mark/this/seller/as/favourite/to/this/customer" ++ ("?" ++ ("customer_id" ++ "=")) := rfl
    have hseller : "&seller_id=" = "&" ++ ("seller_id" ++ "=") := rfl
    have hmark : "&mark_status_seller=" = "&" ++ ("mark_status_seller" ++ "=") := rfl
    refine congrArg (APIRequest net · .get (jsonHeaders defaults) paramater completion) ?_
    simp only [urlString, path, items, URLs.Addfevorateseller, ofList_render_cons,
      ofList_render_singleton, hbase, hseller, hmark, String.append_assoc]
  | API_Add_Fevarate_Seller_Product_LIST mark_status sellerID ProductID =>
    have hbase : "mark/this/seller/product/as/favourite/to/this/customer?customer_id=" =
        "mark/this/seller/product/as/favourite/to/this/customer" ++
          ("?" ++ ("customer_id" ++ "=")) := rfl
    have hseller : "&seller_id=" = "&" ++ ("seller_id" ++ "=") := rfl
    have hproduct : "&seller_product_listing_id=" =
        "&" ++ ("seller_product_listing_id" ++ "=") := rfl
    have hmark : "&mark_status=" = "&" ++ ("mark_status" ++ "=") := rfl
    refine congrArg (APIRequest net · .get (jsonHeaders defaults) paramater completion) ?_
    simp only [urlString, path, items, URLs.AddfevoratesellerProduct, ofList_render_cons,
      ofList_render_singleton, hbase, hseller, hproduct, hmark, String.append_assoc]
  | API_Saved_Address_Details_Data_LIST customer_address_id =>
    have hbase : "get/this/customer/address/details?customer_id=" =
        "get/this/customer/address/details" ++ ("?" ++ ("customer_id" ++ "=")) := rfl
    have haddress : "&customer_address_id=" = "&" ++ ("customer_address_id" ++ "=") := rfl
    refine congrArg (APIRequest net · .get (jsonHeaders defaults) paramater completion) ?_
    simp only [urlString, path, items, URLs.SavedAddressDetails, ofList_render_cons,
      ofList_render_singleton, hbase, haddress, String.append_assoc]

theorem items_ne_nil (CustomerID : String) : call.items CustomerID ≠ [] := by
  cases call <;> exact List.cons_ne_nil _ _

theorem name_letters (CustomerID : String) :
    ∀ item ∈ call.items CustomerID, ∀ c ∈ item.1.toList, c.isAlpha ∨ c = '_' := by
  cases call <;> simp [items]

theorem plainName_items (CustomerID : String) :
    ∀ item ∈ call.items CustomerID, PlainName item.1 := by
  intro item hitem
  have hchar : ∀ c ∈ item.1.toList, c ≠ '&' ∧ c ≠ '#' ∧ c ≠ '%' ∧ c ≠ '=' := by
    intro c hc
    rcases call.name_letters CustomerID item hitem c hc with hletter | rfl
    · refine ⟨?_, ?_, ?_, ?_⟩ <;> rintro rfl <;> exact absurd hletter (by decide)
    · decide
  refine ⟨fun c hc => ?_, fun hc => (hchar '=' hc).2.2.2 rfl⟩
  obtain ⟨hand, hhash, hpercent, -⟩ := hchar c hc
  exact ⟨hand, hhash, hpercent⟩

theorem path_letters : ∀ c ∈ call.path.toList, c.isAlpha ∨ c = '/' := by
  cases call <;> simp [path]

/-- The base of each URL ends before the query begins. -/
theorem base_plain : ∀ c ∈ (URLs.BASE_URL ++ call.path).toList, c ≠ '?' ∧ c ≠ '#' := by
  intro c hc
  rw [String.toList_append, List.mem_append] at hc
  rcases hc with hc | hc
  · have hbase : ∀ c ∈ URLs.BASE_URL.toList, c ≠ '?' ∧ c ≠ '#' := by simp [URLs.BASE_URL]
    exact hbase c hc
  · rcases call.path_letters c hc with hletter | rfl
    · refine ⟨?_, ?_⟩ <;> rintro rfl <;> exact absurd hletter (by decide)
    · decide

end QueryCall

/-! ## What the request layer sends -/

/-- A network on which Alamofire notes the requests it is handed. -/
def Network.recording (P : Platform) (reachability : Option NetworkReachabilityStatus) :
    Network (List HTTPRequest) where
  platform := P
  reachability := reachability
  alamofire request _ requests := some (requests ++ [request])

/-- What `URL(string:)` accepts of a query that follows the base URL and a path of letters:
`allowed` are the characters permitted there, `%` and `#` with a meaning of their own. -/
structure QueryGrammar (P : Platform) (allowed : Char → Bool) : Prop where
  letters : ∀ c : Char, c.isAlpha → allowed c
  separators : allowed '_' ∧ allowed '=' ∧ allowed '&'
  rejects : ∀ path query : String, (∀ c ∈ path.toList, c.isAlpha ∨ c = '/') →
    P.acceptsURL (URLs.BASE_URL ++ path ++ "?" ++ query) → ∀ c ∈ query.toList, allowed c
  accepts : ∀ path query : String, (∀ c ∈ path.toList, c.isAlpha ∨ c = '/') →
    (∀ c ∈ query.toList, allowed c ∧ c ≠ '%' ∧ c ≠ '#') →
    P.acceptsURL (URLs.BASE_URL ++ path ++ "?" ++ query)

namespace QueryCall

variable {P : Platform} {allowed : Char → Bool} (defaults : UserDefaults) (call : QueryCall)

/-- With the network reachable, the unwrapped URL decides: it traps or the request goes out. -/
theorem run_recording (connection : ConnectionType) (paramater : Parameters)
    (completion : Completion (List HTTPRequest)) :
    call.run (.recording P (some (.reachable connection))) defaults paramater completion [] =
      if P.acceptsURL (call.urlString defaults) then
        some [{ urlString := call.urlString defaults, method := .get
                headers := jsonHeaders defaults, parameters := paramater, encoding := .url }]
      else none := by
  rw [run_eq]
  cases connection <;> rfl

theorem acceptsURL_urlString (hgrammar : QueryGrammar P allowed)
    (hvalues : ∀ item ∈ call.items (defaults.CustomerID.getD ""), Plain item.2 ∧
      ∀ c ∈ item.2.toList, allowed c) : P.acceptsURL (call.urlString defaults) := by
  apply hgrammar.accepts call.path _ call.path_letters
  rw [String.toList_ofList]
  refine forall_mem_render ⟨hgrammar.separators.2.2, by decide⟩
    ⟨hgrammar.separators.2.1, by decide⟩ ?_ ?_
  · intro item hitem c hc
    have hname := (call.plainName_items _ item hitem).1 c hc
    refine ⟨?_, hname.2.2, hname.2.1⟩
    rcases call.name_letters _ item hitem c hc with hletter | rfl
    · exact hgrammar.letters c hletter
    · exact hgrammar.separators.1
  · intro item hitem c hc
    obtain ⟨hplain, hallowed⟩ := hvalues item hitem
    exact ⟨hallowed c hc, (hplain c hc).2.2, (hplain c hc).2.1⟩

theorem allowed_of_acceptsURL (hgrammar : QueryGrammar P allowed)
    (haccepted : P.acceptsURL (call.urlString defaults)) :
    ∀ item ∈ call.items (defaults.CustomerID.getD ""), ∀ c ∈ item.2.toList, allowed c := by
  -- Every character of a value is one of the query
  have hquery := hgrammar.rejects call.path _ call.path_letters haccepted
  rw [String.toList_ofList] at hquery
  intro item hitem c hc
  by_cases hsep : c = '&'
  · exact hsep ▸ hgrammar.separators.2.2
  · refine hquery c ((mem_intercalate hsep _).mpr ⟨renderItem item, List.mem_map_of_mem hitem, ?_⟩)
    simp [renderItem, hc]

/-- Every call is sent with a query that reads back as the intended keys and values exactly if
each value, the persisted customer included, is plain and of characters allowed in a query. -/
theorem query_read_back_iff (hgrammar : QueryGrammar P allowed) (connection : ConnectionType)
    (paramater : Parameters) (completion : Completion (List HTTPRequest)) :
    (∃ request,
      call.run (.recording P (some (.reachable connection))) defaults paramater completion [] =
        some [request] ∧
      parseQuery (query request.urlString) =
        some ((call.items (defaults.CustomerID.getD "")).map fun item =>
          (item.1, some item.2))) ↔
      ∀ item ∈ call.items (defaults.CustomerID.getD ""), Plain item.2 ∧
        ∀ c ∈ item.2.toList, allowed c := by
  have hparse := parseQuery_render_iff call.base_plain (call.items_ne_nil _)
    (call.plainName_items (defaults.CustomerID.getD ""))
  rw [run_recording]
  constructor
  · rintro ⟨request, hsent, hread⟩
    split at hsent
    · -- The request that was sent has the URL of the call
      rename_i haccepted
      obtain rfl : _ = request := by simpa using hsent
      have hplain := hparse.mp hread
      intro item hitem
      exact ⟨hplain item hitem, call.allowed_of_acceptsURL defaults hgrammar haccepted item hitem⟩
    · -- A trap sends nothing
      exact absurd hsent (by simp)
  · intro hvalues
    rw [if_pos (call.acceptsURL_urlString defaults hgrammar hvalues)]
    exact ⟨_, rfl, hparse.mpr fun item hitem => (hvalues item hitem).1⟩

/-- The characters of the URLs of `Platform.sample`. -/
def sampleAllowed (c : Char) : Bool := c.isAlphanum || "-._~:/?=&".toList.contains c

theorem acceptsURL_sample {texts : List (Data × JSON)} (path query : String) :
    (Platform.sample texts).acceptsURL (URLs.BASE_URL ++ path ++ "?" ++ query) ↔
      (∀ c ∈ path.toList, sampleAllowed c) ∧ ∀ c ∈ query.toList, sampleAllowed c := by
  have hbase : ∀ c ∈ URLs.BASE_URL.toList, sampleAllowed c := List.all_eq_true.mp (by decide)
  have hmark : sampleAllowed '?' := by decide
  have hne : URLs.BASE_URL ++ path ++ "?" ++ query ≠ "" := by
    intro h
    simpa using congrArg String.toList h
  simp only [Platform.sample, hne, ne_eq, not_false_eq_true, decide_true, Bool.true_and,
    List.all_eq_true, String.toList_append, List.mem_append]
  constructor
  · intro hall
    exact ⟨fun c hc => hall c (by simp [hc]), fun c hc => hall c (by simp [hc])⟩
  · rintro ⟨hpath, hquery⟩ c (((hc | hc) | hc) | hc)
    · exact hbase c hc
    · exact hpath c hc
    · obtain rfl : c = '?' := by simpa using hc
      exact hmark
    · exact hquery c hc

theorem queryGrammar_sample : QueryGrammar (Platform.sample []) sampleAllowed where
  letters c hc := by simp [sampleAllowed, Char.isAlphanum, hc]
  separators := by decide
  rejects path query hpath h := ((acceptsURL_sample path query).mp h).2
  accepts path query hpath h := by
    refine (acceptsURL_sample path query).mpr ⟨fun c hc => ?_, fun c hc => (h c hc).1⟩
    rcases hpath c hc with hletter | rfl
    · simp [sampleAllowed, Char.isAlphanum, hletter]
    · decide

/-- Numeric identifiers are read back. -/
theorem query_read_back_numeric :
    ∃ request,
      (API_Delete_Address_LIST "15").run
        (.recording (Platform.sample []) (some (.reachable .cellular)))
        { CustomerID := some "7" } [] (fun _ => some) [] = some [request] ∧
      parseQuery (query request.urlString) =
        some [("customer_id", some "7"), ("customer_address_id", some "15")] :=
  (query_read_back_iff { CustomerID := some "7" } (API_Delete_Address_LIST "15")
    queryGrammar_sample .cellular [] fun _ => some).mpr
      (by simp [items, Plain, sampleAllowed])

/-- An address id with a separator names a second customer, and one with a space traps. -/
theorem query_rewritten :
    (∃ request,
      (API_Delete_Address_LIST "1&customer_id=2").run
        (.recording (Platform.sample []) (some (.reachable .cellular)))
        { CustomerID := some "7" } [] (fun _ => some) [] = some [request] ∧
      parseQuery (query request.urlString) = some [("customer_id", some "7"),
        ("customer_address_id", some "1"), ("customer_id", some "2")] ∧
      parseQuery (query request.urlString) ≠
        some (((API_Delete_Address_LIST "1&customer_id=2").items "7").map fun item =>
          (item.1, some item.2))) ∧
    (API_Delete_Address_LIST "1 2").run
      (.recording (Platform.sample []) (some (.reachable .cellular)))
      { CustomerID := some "7" } [] (fun _ => some) [] = none := by
  -- The two items are written like three
  have hitems : render ((API_Delete_Address_LIST "1&customer_id=2").items "7") =
      render [("customer_id", "7"), ("customer_address_id", "1"), ("customer_id", "2")] := by
    decide
  -- So it is read like the three
  have hread : parseQuery (query
      (urlString { CustomerID := some "7" } (API_Delete_Address_LIST "1&customer_id=2"))) =
        some [("customer_id", some "7"), ("customer_address_id", some "1"),
          ("customer_id", some "2")] := by
    have hplain := parseQuery_render_iff (API_Delete_Address_LIST "1&customer_id=2").base_plain
      (List.cons_ne_nil ("customer_id", "7")
        [("customer_address_id", "1"), ("customer_id", "2")]) (by decide)
    rw [← hitems] at hplain
    exact hplain.mpr (by decide)
  have haccepted : (Platform.sample []).acceptsURL
      (urlString { CustomerID := some "7" } (API_Delete_Address_LIST "1&customer_id=2")) :=
    (acceptsURL_sample _ _).mpr
      ⟨List.all_eq_true.mp (by decide), List.all_eq_true.mp (by decide)⟩
  have hrejected : ¬ (Platform.sample []).acceptsURL
      (urlString { CustomerID := some "7" } (API_Delete_Address_LIST "1 2")) := by
    intro haccepts
    have hspace := ((acceptsURL_sample _ _).mp haccepts).2 ' ' (by decide)
    exact absurd hspace (by decide)
  rw [run_recording, run_recording, if_pos haccepted, if_neg hrejected]
  refine ⟨⟨_, rfl, hread, ?_⟩, rfl⟩
  intro hsame
  exact absurd (hread.symm.trans hsame) (by decide)

end QueryCall
end ThorChat.Sources
