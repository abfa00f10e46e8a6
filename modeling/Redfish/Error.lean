import Redfish.Duration
import Redfish.Http.Method
import Redfish.Http.Status
import Redfish.ServiceError

/-!
# What can go wrong
-/

namespace Redfish

inductive Error
  | config (text : String)
  | connection (text : String)
  | http (text : String)
  | io (text : String)
  | timeout (after : Duration)
  | status (method : Http.Method) (uri : String) (code : Http.StatusCode)
      (detail : Option ServiceError)
  | decode (uri : String) (fault : Json.Fault)
  | encode (fault : Json.Fault)
  | notUpdatable (typeName : String)
  | detached (uri : String)
  | validation (text : String)
  deriving DecidableEq, Repr

namespace Error

def message : Error → String
  | config text => "Configuration error: " ++ text
  | connection text => "Connection error: " ++ text
  | http text => "HTTP error: " ++ text
  | io text => "I/O error: " ++ text
  | timeout after => "Request timed out after " ++ after.text
  | status method uri code detail =>
    method.name ++ " " ++ uri ++ " returned " ++ code.text ++
      (detail.map fun e => ": " ++ e.text).getD ""
  | decode uri fault => "Failed to decode " ++ uri ++ ": <" ++ fault.words ++ ">"
  | encode fault => "Failed to encode request body: <" ++ fault.words ++ ">"
  | notUpdatable typeName => typeName ++ " declares no updatable properties"
  | detached uri => "Resource " ++ uri ++ " is not attached to a client"
  | validation text => "Validation error: " ++ text

def statusCode? : Error → Option Http.StatusCode
  | status _ _ code _ => some code
  | _ => none

def isNotFound (e : Error) : Bool := e.statusCode? = some .notFound

end Error

end Redfish
