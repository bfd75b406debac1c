import ThorChat.Runtime.JSON

/-!
# Response Models

`Mapper<Model>().map(JSON:)` for the three models the sign-in screens map their answers to.
None of the initialisers fails, so the mapped model is never nil.
-/

namespace ThorChat.Models

open ThorChat.Runtime

/-- `LoginModel`. -/
structure LoginModel where
  status : Int := 0
  message : String := ""
  customer_id : String := "0"
  customer_otp : String := "0"
  deriving DecidableEq, Repr

/-- `LoginModel.mapping(map:)` on a fresh model. -/
def LoginModel.map (json : Dictionary) : LoginModel :=
  let model : LoginModel := {}
  { status := mapSignedInteger model.status json "status"
    message := mapString model.message json "message"
    customer_id := mapString model.customer_id json "customer_id"
    customer_otp := mapString model.customer_otp json "customer_otp" }

/-- `RegisterModel`. -/
structure RegisterModel where
  status : Int := 0
  message : String := ""
  redirectTo : String := ""
  client_service : String := ""
  auth_key : String := ""
  deriving DecidableEq, Repr

/-- `RegisterModel.mapping(map:)` on a fresh model. -/
def RegisterModel.map (json : Dictionary) : RegisterModel :=
  let model : RegisterModel := {}
  { status := mapSignedInteger model.status json "status"
    client_service := mapString model.client_service json "client_service"
    message := mapString model.message json "message"
    redirectTo := mapString model.redirectTo json "redirectTo"
    auth_key := mapString model.auth_key json "auth_key" }

/-- `SavedAddressModel`, without the address list no modelled function reads. -/
structure SavedAddressModel where
  status : Option Int := none
  message : Option String := none
  deriving DecidableEq, Repr

/-- `SavedAddressModel.mapping(map:)` on a fresh model. -/
def SavedAddressModel.map (json : Dictionary) : SavedAddressModel :=
  let model : SavedAddressModel := {}
  { status := mapOptionalSignedInteger model.status json "status"
    message := mapOptionalString model.message json "message" }

end ThorChat.Models
