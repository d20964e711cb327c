import Testbed.Duration
import Testbed.Json.Printer

/-!
# Requests and responses

## Main definitions

* `Credentials` — a user's name and password
* `Http.Method`, `Http.Body`, `Http.Request`, `Http.Response`
-/

namespace Testbed

/-- A user's name and password. -/
structure Credentials where
  username : String
  password : String
  deriving DecidableEq, Repr, Inhabited

namespace Http

/-- What a request asks for. -/
inductive Method where
  | get
  | post
  | put
  | delete
  deriving DecidableEq, Repr, Inhabited

/-- The word that stands for a method in a request. -/
def Method.text : Method → String
  | .get => "GET"
  | .post => "POST"
  | .put => "PUT"
  | .delete => "DELETE"

instance : ToString Method := ⟨Method.text⟩

/-- What a request carries. -/
inductive Body where
  /-- Text as it is. -/
  | data (text : String)
  | json (value : Json)
  deriving DecidableEq

/-- A request, ready to be sent. -/
structure Request where
  method : Method
  url : String
  auth : Credentials
  body : Option Body
  timeout : Duration
  deriving DecidableEq

/-- What came back. -/
structure Response where
  method : Method
  url : String
  status : Nat
  reason : String
  body : String
  deriving DecidableEq, Repr

end Http

end Testbed
