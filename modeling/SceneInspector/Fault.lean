import SceneInspector.Element.Basic

namespace SceneInspector

inductive Fault where
  | system (failure : String)
  | malformedJson
  | elementNotFound (id : ElementId)
  | scene (message : String)
  | protocol (message : String)
  | transport (message : String)
  | transportClosed
  | configuration (message : String)
  | configurationNotFound (path : String)
  | schema (className message : String)
deriving DecidableEq, Repr

namespace Fault

def message : Fault → String
  | .system failure => "IO error: " ++ failure
  | .malformedJson => "JSON parsing error"
  | .elementNotFound id => "Element " ++ toString id.toNat ++ " not found in scene"
  | .scene text => "Scene error: " ++ text
  | .protocol text => "Protocol error: " ++ text
  | .transport text => "Transport error: " ++ text
  | .transportClosed => "Transport closed"
  | .configuration text => "Configuration error: " ++ text
  | .configurationNotFound path => "Configuration file not found: " ++ path
  | .schema className text => "Invalid schema for class " ++ className ++ ": " ++ text

def recoverable : Fault → Bool
  | .elementNotFound _ | .protocol _ | .transport _ | .malformedJson => true
  | _ => false

-- After a fatal fault no later attempt can succeed. Some faults are neither.
def fatal : Fault → Bool
  | .transportClosed | .system _ => true
  | _ => false

end SceneInspector.Fault
