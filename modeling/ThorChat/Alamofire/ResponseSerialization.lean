import ThorChat.Sources.WrappingAPIs

/-!
# Reading a Response as JSON

`JSONResponseSerializer` of `ResponseSerialization.swift`, with the defaults that `responseJSON`
passes: no preprocessing, and an empty body is only allowed for a `HEAD` request or for the
statuses 204 and 205.
-/

namespace ThorChat.Alamofire

open ThorChat.Runtime
open ThorChat.Sources

/-- `JSONResponseSerializer`, by what it asks of Foundation and by the error it throws itself. -/
structure JSONResponseSerializer where
  /-- `JSONSerialization.jsonObject(with:options:)` with fragments allowed; what it throws is
  wrapped in an `AFError`. -/
  jsonObject : Data → AFResult
  /-- `AFError.responseSerializationFailed(reason: .inputDataNilOrZeroLength)`. -/
  inputDataNilOrZeroLength : AFError

namespace JSONResponseSerializer

def emptyRequestMethods : List HTTPMethod := [⟨"HEAD"⟩]
def emptyResponseCodes : List Int := [204, 205]

/-- `emptyResponseAllowed(forRequest:response:)`. -/
def emptyResponseAllowed (request : Option HTTPMethod) (statusCode : Option Int) : Bool :=
  request.any (emptyRequestMethods.contains ·) || statusCode.any (emptyResponseCodes.contains ·)

/-- `serialize(request:response:data:error:)`. -/
def serialize (serializer : JSONResponseSerializer) (request : Option HTTPMethod)
    (statusCode : Option Int) (data : Option Data) (error : Option AFError) : AFResult :=
  match error with
  | some error => .failure error
  | none =>
    match data with
    | some (byte :: bytes) => serializer.jsonObject (byte :: bytes)
    -- No data, or data of length zero
    | _ =>
      if emptyResponseAllowed request statusCode then .success .null
      else .failure serializer.inputDataNilOrZeroLength

end JSONResponseSerializer

end ThorChat.Alamofire
