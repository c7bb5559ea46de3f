import SceneInspector.Json.Record

namespace SceneInspector.Fit
open Json

structure Inputs where
  minLibrary : String := ""
  errorDefinition : Option Binary64 := none
  maxTolerance : Option Binary64 := none
  maxIterations : Option Nat := none
deriving DecidableEq, Repr

structure ContourRequest where
  points : UInt32
  firstParameter : Int
  secondParameter : Int
deriving DecidableEq, Repr

structure ScanRequest where
  points : UInt32
  parameter : Int
  low : Binary64
  high : Binary64
deriving DecidableEq, Repr

inductive Command where
  | doFit (inputs : Inputs)
  | reset
  | back
  | selectFunction (name : String)
  | operationText (text : String)
  | selectLibrary (library : String)
  | selectTypeFunction (family : String)
  | setNoStore (noStore : Bool)
  | updateRange (low high : Binary64)
  | drawContour (request : ContourRequest)
  | drawScan (request : ScanRequest)
  | applyParameters
  | setContourColour (colour : String)
deriving DecidableEq, Repr

def Inputs.ofMembers? (members : Members) : Option Inputs := do
  pure ⟨← required members "min_library" string?, ← nullable members "error_def" real?,
    ← nullable members "max_tolerance" real?, ← nullable members "max_iterations" count?⟩

def Inputs.ofJson? (value : Json) : Option Inputs := do
  ofMembers? (← value.fields? ["min_library"] ["error_def", "max_tolerance", "max_iterations"])

def Inputs.toMembers (inputs : Inputs) : Members :=
  [("min_library", .string inputs.minLibrary),
    ("error_def", .optional .real inputs.errorDefinition),
    ("max_tolerance", .optional .real inputs.maxTolerance),
    ("max_iterations", .optional .natural inputs.maxIterations)]

def ContourRequest.ofMembers? (members : Members) : Option ContourRequest := do
  pure ⟨← required members "points" word?, ← required members "par1" signed?,
    ← required members "par2" signed?⟩

def ContourRequest.ofJson? (value : Json) : Option ContourRequest := do
  ofMembers? (← value.fields? ["points", "par1", "par2"] [])

def ContourRequest.toMembers (request : ContourRequest) : Members :=
  [("points", .natural request.points.toNat), ("par1", .integer request.firstParameter),
    ("par2", .integer request.secondParameter)]

def ScanRequest.ofMembers? (members : Members) : Option ScanRequest := do
  pure ⟨← required members "points" word?, ← required members "par" signed?,
    ← required members "min" real?, ← required members "max" real?⟩

def ScanRequest.ofJson? (value : Json) : Option ScanRequest := do
  ofMembers? (← value.fields? ["points", "par", "min", "max"] [])

def ScanRequest.toMembers (request : ScanRequest) : Members :=
  [("points", .natural request.points.toNat), ("par", .integer request.parameter),
    ("min", .real request.low), ("max", .real request.high)]

namespace Command

def names : List String := ["do_fit", "reset", "back", "select_function", "operation_text",
  "select_library", "select_type_func", "set_no_store", "update_range", "draw_contour",
  "draw_scan", "apply_pars", "set_contour_color"]

def ofVariant? (name : String) (value : Json) : Option Command := do
  match name with
  | "do_fit" => pure (.doFit (← Inputs.ofJson? value))
  | "reset" => value.bare?.map fun _ => .reset
  | "back" => value.bare?.map fun _ => .back
  | "select_function" => pure (.selectFunction (← value.single? "name" string?))
  | "operation_text" => pure (.operationText (← value.single? "text" string?))
  | "select_library" => pure (.selectLibrary (← value.single? "library" string?))
  | "select_type_func" => pure (.selectTypeFunction (← value.single? "type_func" string?))
  | "set_no_store" => pure (.setNoStore (← value.single? "no_store" bool?))
  | "update_range" => do
    let range ← value.fields? ["low", "high"] []
    pure (.updateRange (← required range "low" real?) (← required range "high" real?))
  | "draw_contour" => pure (.drawContour (← ContourRequest.ofJson? value))
  | "draw_scan" => pure (.drawScan (← ScanRequest.ofJson? value))
  | "apply_pars" => value.bare?.map fun _ => .applyParameters
  | "set_contour_color" => pure (.setContourColour (← value.single? "color" string?))
  | _ => none

def ofJson? (tagging : Tagging) : Json → Option Command :=
  chosen? tagging "command" names ofVariant?

def toMembers : Command → Members
  | .doFit inputs => ("command", .string "do_fit") :: inputs.toMembers
  | .reset => [("command", .string "reset")]
  | .back => [("command", .string "back")]
  | .selectFunction name => [("command", .string "select_function"), ("name", .string name)]
  | .operationText text => [("command", .string "operation_text"), ("text", .string text)]
  | .selectLibrary library =>
    [("command", .string "select_library"), ("library", .string library)]
  | .selectTypeFunction family =>
    [("command", .string "select_type_func"), ("type_func", .string family)]
  | .setNoStore noStore => [("command", .string "set_no_store"), ("no_store", .bool noStore)]
  | .updateRange low high =>
    [("command", .string "update_range"), ("low", .real low), ("high", .real high)]
  | .drawContour request => ("command", .string "draw_contour") :: request.toMembers
  | .drawScan request => ("command", .string "draw_scan") :: request.toMembers
  | .applyParameters => [("command", .string "apply_pars")]
  | .setContourColour colour =>
    [("command", .string "set_contour_color"), ("color", .string colour)]

end SceneInspector.Fit.Command
