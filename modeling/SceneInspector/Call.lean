import SceneInspector.Decimal.Layout
import SceneInspector.Element.Basic

namespace SceneInspector

inductive Call.Argument where
  | bool (value : Bool)
  | number (value : Binary64)
  | quoted (text : String)
  | verbatim (text : String)
  | byte (value : UInt8)
  | element (id : ElementId)
deriving DecidableEq, Repr

structure Call where
  verb : String
  arguments : List Call.Argument := []
deriving DecidableEq, Repr

structure Call.Target where
  element : ElementId
  typeName : String
deriving DecidableEq, Repr

namespace Call

-- A quote in a quoted text is preceded by a backslash. Nothing else is touched.
def quotedText (text : List Char) : List Char :=
  '"' :: text.flatMap (fun c => if c = '"' then ['\\', '"'] else [c]) ++ ['"']

def Argument.text : Argument → String
  | .bool value => if value then "true" else "false"
  | .number value => String.ofList (Decimal.plain.text value)
  | .quoted text => String.ofList (quotedText text.toList)
  | .verbatim text => text
  | .byte value => "(UChar_t)" ++ toString value.toNat
  | .element id => toString id.toNat

def command (call : Call) : String :=
  if call.arguments = [] then call.verb ++ "()"
  else call.verb ++ "( " ++ String.intercalate ", " (call.arguments.map Argument.text) ++ " )"

end SceneInspector.Call
