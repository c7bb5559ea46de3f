import SceneInspector.Json.Reader

namespace SceneInspector.Fit

inductive Frame where
  | model (payload : Json)
  | parameters (payload : Json)
  | advanced (payload : Json)
deriving DecidableEq, Repr

def after? (start : String) (text : List Char) : Option (List Char) :=
  if start.toList.isPrefixOf text then some (text.drop start.length) else none

def payload? (text : List Char) : Option Json := (Json.read? (String.ofList text)).map Json.canonical

def Frame.parse? (text : String) : Option Frame :=
  match after? "MODEL:" text.toList with
  | some rest => (payload? rest).map .model
  | none =>
    match after? "PARS:" text.toList with
    | some rest => (payload? rest).map .parameters
    | none =>
      match after? "ADVANCED:" text.toList with
      | some rest => (payload? rest).map .advanced
      | none => none

def Frame.kind : Frame → String
  | .model _ => "model"
  | .parameters _ => "pars"
  | .advanced _ => "advanced"

def Frame.payload : Frame → Json
  | .model payload | .parameters payload | .advanced payload => payload

end SceneInspector.Fit
