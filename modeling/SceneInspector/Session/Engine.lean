import SceneInspector.Debouncer
import SceneInspector.Session.Event
import SceneInspector.Session.Update

namespace SceneInspector

inductive Output where
  | handed (handed : Handed)
  | event (event : Event)
deriving DecidableEq, Repr

structure Engine where
  state : State
  queue : List Message := []
  delivery : Delivery
  hover : Debouncer Pick

namespace Engine

def ofState (state : State) (transport : Transport) : Engine :=
  { state, delivery := { transport }, hover := { delay := state.settings.summary.highlightDelay } }

def ofSettings (settings : Settings) (transport : Transport) : Except Fault Engine :=
  match State.ofSettings settings with
  | .ok state => .ok (ofState state transport)
  | .error fault => .error fault

def shouldQuit (engine : Engine) : Bool := engine.state.quitRequested || engine.delivery.lost

def send (engine : Engine) (frame : Outgoing) : Engine × List Handed :=
  let sent := engine.delivery.send frame
  ({ engine with delivery := sent.1 }, [sent.2])

def perform (engine : Engine) : Action → Engine × List Handed
  | .invoke call target => engine.send (.ofCall call target)
  | .sendPanel text => engine.send (.panel text)
  | .highlight pick => ({ engine with hover := engine.hover.schedule pick }, [])
  | .cancelHighlight => ({ engine with hover := engine.hover.cancel }, [])

def performAll (engine : Engine) : List Action → Engine × List Handed
  | [] => (engine, [])
  | action :: rest =>
    let performed := engine.perform action
    let others := performed.1.performAll rest
    (others.1, performed.2 ++ others.2)

def process (engine : Engine) (message : Message) : Engine × List Output :=
  let before := engine.state.glimpse
  let updated := engine.state.update message
  let performed := { engine with state := updated.1 }.performAll updated.2
  (performed.1,
    performed.2.map .handed ++ (Event.between before performed.1.state).map .event)

def sendPicks (engine : Engine) (picks : List Pick) : Engine × List Output :=
  let sent := engine.delivery.sendAll (picks.map Pick.frame)
  ({ engine with delivery := sent.1 }, sent.2.map .handed)

def advance (engine : Engine) (time : Nat) : Engine × List Output :=
  let passed := engine.hover.advance time
  { engine with hover := passed.1 }.sendPicks passed.2

-- At the end a pick that waits is given less than this to go out.
def shutdownLimit : Nat := 2000

def shutdown (engine : Engine) : Engine × List Output :=
  let finished := engine.hover.finish (some shutdownLimit)
  { engine with hover := finished.1 }.sendPicks finished.2

def queueCapacity : Nat := 256

def enqueue (engine : Engine) (message : Message) : Engine :=
  if engine.queue.length < queueCapacity then { engine with queue := engine.queue ++ [message] }
  else engine

def processAll (engine : Engine) : List Message → Engine × List Output
  | [] => (engine, [])
  | message :: rest =>
    let processed := engine.process message
    let others := processed.1.processAll rest
    (others.1, processed.2 ++ others.2)

def drain (engine : Engine) : Engine × List Output :=
  { engine with queue := [] }.processAll engine.queue

def runQueue (engine : Engine) : List Message → Engine × List Output
  | [] => ({ engine with queue := [] }, [])
  | message :: rest =>
    if engine.shouldQuit then ({ engine with queue := message :: rest }, [])
    else
      let processed := engine.process message
      let others := processed.1.runQueue rest
      (others.1, processed.2 ++ others.2)

def run (engine : Engine) (limit : Nat) : Engine × List Output × Bool :=
  let ran := engine.runQueue engine.queue
  if ran.1.shouldQuit then (ran.1, ran.2, true)
  else
    let waited := ran.1.hover.waitOut limit
    let sent := { ran.1 with hover := waited.1 }.sendPicks waited.2
    (sent.1, ran.2 ++ sent.2, false)

def disconnect (engine : Engine) : Engine :=
  { engine with delivery := { engine.delivery with transport := .closed } }

end SceneInspector.Engine
