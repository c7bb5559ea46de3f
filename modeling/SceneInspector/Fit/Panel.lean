import SceneInspector.Colour.Literal
import SceneInspector.Fit.Frame
import SceneInspector.Fit.Request
import SceneInspector.Json.Writer

namespace SceneInspector.Fit

abbrev Model := Dictionary Json

structure Panel where
  model : Model
  history : List Model := []
  cursor : Nat := 0
  selectedText : String
  operationText : String := ""
  inputs : Inputs := {}
  contourColour : Option String := none
deriving DecidableEq, Repr

def standardFunction : String := "gaus"

-- A list that the backend does not send: the entry of a table at a selected place.
structure Derivation where
  target : String
  table : String
  selector : String

def derivations : List Derivation := [
  ⟨"fFuncList", "fFuncListAll", "fSelectTypeFunc"⟩,
  ⟨"fMethodMin", "fMethodMinAll", "fLibrary"⟩]

def place? : Json → Option Nat
  | .number (.integer value) => if 0 ≤ value then some value.toNat else none
  | .string text => Text.unsigned? Text.maxUInt64 (Text.trimmed text.toList)
  | _ => none

def Derivation.value? (derivation : Derivation) (model : Model) : Option Json := do
  let place ← place? (← Dictionary.get? derivation.selector model)
  let items ← (← Dictionary.get? derivation.table model).items?
  items[place]?

def Derivation.apply (derivation : Derivation) (model : Model) : Model :=
  match derivation.value? model with
  | some value => Dictionary.insert derivation.target value model
  | none => Dictionary.erase derivation.target model

def derived (model : Model) : Model :=
  derivations.foldl (fun model derivation => derivation.apply model) model

-- The derived lists are not sent back.
def outgoing (model : Model) : Model :=
  derivations.foldl (fun model derivation => Dictionary.erase derivation.target model) model

namespace Panel

def initial : Panel where
  model := Dictionary.ofList [
    ("fSelectDataId", .string "2"),
    ("fStep", .real (Decimal.Literal.value ⟨false, 1, -2⟩)),
    ("fRange", .array [.integer (-4), .integer 4]),
    ("fUpdateRange", .array [.integer (-4), .integer 4])]
  selectedText := standardFunction

def set (panel : Panel) (name : String) (value : Json) : Panel :=
  { panel with model := Dictionary.insert name value panel.model }

def frame (panel : Panel) (start : String) : String :=
  start ++ (Json.object (outgoing panel.model)).compact

def receive (panel : Panel) (text : String) : Panel × Bool :=
  match Frame.parse? text with
  | some (.model (.object received)) =>
    let model := derived received
    ({ panel with model, history := [model], cursor := 0 }, true)
  | some (.parameters payload) => (panel.set "fFuncPars" payload, true)
  | some (.advanced (.object model)) => ({ panel with model }, true)
  | _ => (panel, false)

def record (panel : Panel) : Panel :=
  let kept := panel.history.take (panel.cursor + 1)
  { panel with history := kept ++ [panel.model], cursor := kept.length }

def doFit (panel : Panel) (inputs : Inputs) : Panel × String :=
  let asked := { ((((panel.set "fMinLibrary" (.string inputs.minLibrary)).set
    "fErrorDef" (.optional .real inputs.errorDefinition)).set
    "fMaxTol" (.optional .real inputs.maxTolerance)).set
    "fMaxInter" (.optional .natural inputs.maxIterations)) with inputs }
  let recorded := asked.record
  (recorded, recorded.frame "DOFIT:")

def reset (panel : Panel) : Panel × Bool :=
  match panel.history with
  | [] => (panel, false)
  | first :: _ =>
    ({ panel with
        model := first
        cursor := 0
        selectedText := standardFunction
        operationText := ""
        inputs := {} }, true)

def back (panel : Panel) : Panel × Bool :=
  if panel.cursor = 0 then (panel, false)
  else
    let cursor := panel.cursor - 1
    match panel.history[cursor]? with
    | some model => ({ panel with model, cursor }, true)
    | none => ({ panel with cursor }, false)

def selectFunction (panel : Panel) (name : String) : Panel × Option String :=
  let selected := { (panel.set "fSelectedFunc" (.string name)).set "fFuncChange" (.string name) with
    operationText := name
    selectedText := name }
  (selected, if name = "" then none else some ("GETPARS:" ++ name))

def changeOperation (panel : Panel) (text : String) : Panel :=
  { panel with operationText := text, selectedText := text }

def selectLibrary (panel : Panel) (library : String) : Panel :=
  let selected := panel.set "fLibrary" (.string library)
  { selected with model := derived selected.model }

def selectTypeFunction (panel : Panel) (family : String) : Panel :=
  let selected := panel.set "fSelectTypeFunc" (.string family)
  { selected with model := derived selected.model }

def setNoStore (panel : Panel) (noStore : Bool) : Panel := panel.set "fNoStore" (.bool noStore)

def updateRange (panel : Panel) (low high : Binary64) : Panel :=
  panel.set "fUpdateRange" (.array [.real low, .real high])

def setContourColour (panel : Panel) (colour : String) : Panel :=
  { panel with contourColour := some colour }

-- The chosen colour goes along as its components, and nothing does if it is not a colour.
def drawContour (panel : Panel) (request : ContourRequest) : Panel × String :=
  let asked := ((panel.set "fContourPoints" (.natural request.points.toNat)).set
    "fContourPar1" (.integer request.firstParameter)).set
    "fContourPar2" (.integer request.secondParameter)
  let coloured := match panel.contourColour.bind Colour.parse? with
    | some colour => asked.set "fColorContour" (.strings colour.decimals)
    | none => { asked with model := Dictionary.erase "fColorContour" asked.model }
  (coloured, coloured.frame "SETCONTOUR:")

def drawScan (panel : Panel) (request : ScanRequest) : Panel × String :=
  let asked := (((panel.set "fScanPoints" (.natural request.points.toNat)).set
    "fScanPar" (.integer request.parameter)).set
    "fScanMin" (.real request.low)).set "fScanMax" (.real request.high)
  (asked, asked.frame "SETSCAN:")

def applyParameters (panel : Panel) : String :=
  "SETPARS:" ++ ((Dictionary.get? "fFuncPars" panel.model).getD .null).compact

def perform (panel : Panel) : Command → Panel × Option String
  | .doFit inputs => let made := panel.doFit inputs; (made.1, some made.2)
  | .reset => (panel.reset.1, none)
  | .back => (panel.back.1, none)
  | .selectFunction name => panel.selectFunction name
  | .operationText text => (panel.changeOperation text, none)
  | .selectLibrary library => (panel.selectLibrary library, none)
  | .selectTypeFunction family => (panel.selectTypeFunction family, none)
  | .setNoStore noStore => (panel.setNoStore noStore, none)
  | .updateRange low high => (panel.updateRange low high, none)
  | .drawContour request => let made := panel.drawContour request; (made.1, some made.2)
  | .drawScan request => let made := panel.drawScan request; (made.1, some made.2)
  | .applyParameters => (panel, some panel.applyParameters)
  | .setContourColour colour => (panel.setContourColour colour, none)

end SceneInspector.Fit.Panel
