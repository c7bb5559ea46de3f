import SceneInspector.Forest
import SceneInspector.Json.Record

namespace SceneInspector

abbrev ElementId := UInt32

-- What the backend streams of one element, its children aside. The members that the inspector
-- gives no meaning to are kept under their own names.
structure Element where
  id : ElementId
  name : String := ""
  title : String := ""
  typeName : String := ""
  masterId : Option ElementId := none
  mainColour : Option UInt32 := none
  rendersSelf : Option Bool := none
  members : Dictionary Json := []
deriving DecidableEq, Repr

namespace Element

def typeNamespace : String := "ROOT::Experimental::"

def afterStart (start : List Char) (text : List Char) : Option (List Char) :=
  if start.isPrefixOf text then some (text.drop start.length) else none

def shortTypeName (typeName : String) : String :=
  match afterStart typeNamespace.toList typeName.toList with
  | some rest => String.ofList rest
  | none => typeName

def shortType (element : Element) : String := shortTypeName element.typeName

def displayTitle (element : Element) : String :=
  if element.title = "" then element.name else element.title

def effectiveMaster (element : Element) : ElementId :=
  match element.masterId with
  | some master => if master = 0 then element.id else master
  | none => element.id

def field? (element : Element) (name : String) : Option Json :=
  if name = "fElementId" then some (.natural element.id.toNat)
  else if name = "fName" then some (.string element.name)
  else if name = "fTitle" then some (.string element.title)
  else if name = "fMasterId" then element.masterId.map fun id => .natural id.toNat
  else if name = "fMainColor" then element.mainColour.map fun index => .natural index.toNat
  else if name = "fRnrSelf" then element.rendersSelf.map .bool
  else Dictionary.get? name element.members

-- Sets one member. The main colour and the render flag have places of their own, which only a
-- value of their type fills; every other name is kept among the members.
def withField (element : Element) (name : String) (value : Json) : Element :=
  if name = "fMainColor" then { element with mainColour := value.word? }
  else if name = "fRnrSelf" then { element with rendersSelf := value.bool? }
  else { element with members := Dictionary.insert name value.canonical element.members }

end Element

-- A tree of elements takes a fresh snapshot of its root. Without children of its own the snapshot
-- leaves the present ones in place.
def Tree.updated (snapshot current : Tree Element) : Tree Element :=
  ⟨snapshot.root, if snapshot.children.isEmpty then current.children else snapshot.children⟩

structure Element.Change where
  snapshot : Tree Element
  rendersSelfChanged : Bool := false
deriving DecidableEq, Repr

end SceneInspector
