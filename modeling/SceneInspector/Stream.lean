import SceneInspector.Json.Writer
import SceneInspector.Message.Wire
import SceneInspector.Session.Engine

namespace SceneInspector

inductive Stream.Record where
  | ready (configDirectory : String)
  | outgoing (frame : Outgoing)
  | event (told : Event)
  | error (message : String) (fatal : Bool)
deriving DecidableEq, Repr

namespace Stream

def outgoingMembers : Outgoing → List (String × Json)
  | .call command target =>
    [("event", .string "invoke"), ("command", .string command),
      ("element_id", .natural target.element.toNat), ("element_type", .string target.typeName)]
  | .panel text => [("event", .string "panel"), ("text", .string text)]

def eventMembers : Event → List (String × Json)
  | .summaryRebuilt generation nodes =>
    [("event", .string "summary_rebuilt"), ("generation", .natural generation),
      ("nodes", .natural nodes)]
  | .editorOpened element path title controls =>
    [("event", .string "editor_opened"), ("element_id", .natural element.toNat),
      ("path", .string path), ("title", .string title), ("controls", .natural controls)]
  | .editorClosed element =>
    [("event", .string "editor_closed"), ("element_id", .natural element.toNat)]
  | .fitHistoryChanged length cursor =>
    [("event", .string "fit_history_changed"), ("len", .natural length),
      ("cursor", .natural cursor)]

def Record.members : Record → List (String × Json)
  | .ready directory => [("event", .string "ready"), ("config_dir", .string directory)]
  | .outgoing frame => outgoingMembers frame
  | .event told => eventMembers told
  | .error message fatal =>
    [("event", .string "error"), ("message", .string message), ("fatal", .bool fatal)]

def Record.line (record : Record) (timestamp : Nat) : String :=
  (Json.object (record.members ++ [("timestamp", .natural timestamp)])).compact

def Record.ofOutput : Output → Record
  | .handed handed => .outgoing handed.frame
  | .event told => .event told

def malformed : Record := .error "Invalid message: the line does not hold one" false

-- What one line of input does. Nothing more is read once the session should end.
def feed (engine : Engine) (line : String) : Engine × List Record :=
  match Message.Line.parse line with
  | .blank => (engine, [])
  | .malformed => (engine, [malformed])
  | .message message =>
    let processed := engine.process message
    (processed.1, processed.2.map Record.ofOutput)

def feedAll (engine : Engine) : List String → Engine × List Record
  | [] => (engine, [])
  | line :: rest =>
    if engine.shouldQuit then (engine, [])
    else
      let fed := feed engine line
      let others := feedAll fed.1 rest
      (others.1, fed.2 ++ others.2)

def close (engine : Engine) : List Record := engine.shutdown.2.map Record.ofOutput

-- The end of the input is seen a moment after its last line, in milliseconds.
def endDelay : Nat := 1

def session (engine : Engine) (lines : List String) : List Record :=
  let fed := feedAll engine lines
  let passed := fed.1.advance endDelay
  fed.2 ++ passed.2.map Record.ofOutput ++ close passed.1

end SceneInspector.Stream
