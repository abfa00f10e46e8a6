/-!
# Request methods
-/

namespace Redfish.Http

structure Method where
  name : String
  deriving DecidableEq, Repr

namespace Method

def get : Method := ⟨"GET"⟩

def patch : Method := ⟨"PATCH"⟩

end Method

end Redfish.Http
