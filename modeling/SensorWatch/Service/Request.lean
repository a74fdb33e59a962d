import SensorWatch.Service.MediaType
import SensorWatch.Service.Target

namespace SensorWatch

structure Request where
  method : String
  path : String
  contentType : Option String
  body : String
  deriving DecidableEq

namespace Request

inductive Part where
  | method
  | target
  | contentType
  deriving DecidableEq

def isMethod (s : String) : Bool :=
  !s.isEmpty && s.toList.all MediaType.isTokenChar

def isHeaderChar (c : Char) : Bool :=
  c = '\t' || (' ' ≤ c && c != '\x7f')

-- Makes a request, unless a part of it is malformed. Of its target the path is kept.
def make (method target : String) (contentType : Option String) (body : String) :
    Except Part Request :=
  if !isMethod method then .error .method
  else match Target.path? target with
    | none => .error .target
    | some path =>
      if contentType.all fun s => s.toList.all isHeaderChar then
        .ok { method, path, contentType, body }
      else .error .contentType

end Request
end SensorWatch
