import SceneInspector.Call
import SceneInspector.Fault

namespace SceneInspector

inductive Outgoing where
  | call (command : String) (target : Call.Target)
  | panel (text : String)
deriving DecidableEq, Repr

-- The sink of outgoing frames. What it answers may hang on the frame and on how many it was handed
-- before; no fault means that the frame arrived.
abbrev Transport := Nat → Outgoing → Option Fault

def Transport.open : Transport := fun _ _ => none

def Transport.closed : Transport := fun _ _ => some .transportClosed

structure Handed where
  frame : Outgoing
  answer : Option Fault
deriving DecidableEq, Repr

-- Hands frames to the transport once each. A fault is not reported to the sender, and only a fatal
-- one is remembered.
structure Delivery where
  transport : Transport
  count : Nat := 0
  lost : Bool := false

namespace Delivery

def losesTransport (answer : Option Fault) : Bool :=
  match answer with
  | some fault => !fault.recoverable && fault.fatal
  | none => false

def send (delivery : Delivery) (frame : Outgoing) : Delivery × Handed :=
  let answer := delivery.transport delivery.count frame
  ({ delivery with count := delivery.count + 1, lost := delivery.lost || losesTransport answer },
    ⟨frame, answer⟩)

def sendAll (delivery : Delivery) : List Outgoing → Delivery × List Handed
  | [] => (delivery, [])
  | frame :: rest =>
    let sent := delivery.send frame
    let others := sent.1.sendAll rest
    (others.1, sent.2 :: others.2)

end Delivery

namespace Outgoing

def ofCall (call : Call) (target : Call.Target) : Outgoing := .call call.command target

def toJson : Outgoing → Json
  | .call command target =>
    .object [("frame", .string "invocation"), ("mir", .string command),
      ("fElementId", .natural target.element.toNat), ("class", .string target.typeName)]
  | .panel text => .object [("frame", .string "panel"), ("text", .string text)]

end SceneInspector.Outgoing
