import SceneInspector.Proofs.DeliveryLoss
import SceneInspector.Proofs.PickTiming

namespace SceneInspector

-- What a session does that anything may be handed over for: it processes a message, or a pick goes
-- out whose quiet time is over.
inductive Deed where
  | processed (message : Message)
  | fired (pick : Pick)
deriving DecidableEq

namespace State

def after (state : State) : List Deed → State
  | [] => state
  | .processed message :: later => (state.update message).1.after later
  | .fired _ :: later => state.after later

-- The frames that the deeds call for, in order. What the transport answers has no part in them.
def calledFor (state : State) : List Deed → List Outgoing
  | [] => []
  | .processed message :: later =>
    (state.update message).2.filterMap Action.frame? ++ (state.update message).1.calledFor later
  | .fired pick :: later => pick.frame :: state.calledFor later

theorem after_append (state : State) (first second : List Deed) :
    state.after (first ++ second) = (state.after first).after second := by
  induction first generalizing state with
  | nil => rfl
  | cons deed rest ih =>
    cases deed with
    | processed message => exact ih _
    | fired pick => exact ih _

theorem calledFor_append (state : State) (first second : List Deed) :
    state.calledFor (first ++ second) =
      state.calledFor first ++ (state.after first).calledFor second := by
  induction first generalizing state with
  | nil => rfl
  | cons deed rest ih =>
    cases deed with
    | processed message =>
      rw [List.cons_append, calledFor, ih, ← List.append_assoc]
      rfl
    | fired pick => exact congrArg (pick.frame :: ·) (ih _)

theorem after_fired (state : State) (picks : List Pick) :
    state.after (picks.map .fired) = state := by
  induction picks with
  | nil => rfl
  | cons pick rest ih => exact ih

theorem calledFor_fired (state : State) (picks : List Pick) :
    state.calledFor (picks.map .fired) = picks.map Pick.frame := by
  induction picks with
  | nil => rfl
  | cons pick rest ih => exact congrArg (pick.frame :: ·) ih

theorem update_quitRequested (state : State) (message : Message) :
    (state.update message).1.quitRequested =
      (state.quitRequested || decide (message = .quit)) := by
  cases message with
  | quit => simp [update]
  | scene notice =>
    cases notice with
    | managerInit roots => simp [update, notice, managerInit, rebuildSummary]
    | beginChanges => simp [update, notice]
    | elementChanged change =>
      show (state.elementChanged change).quitRequested = _
      by_cases received : state.receives change.snapshot.root.id = true
      · rw [elementChanged_received received, settleOutsideBatch_frame]
        simp [withChange]
      · simp [elementChanged_refused received]
    | elementsRemoved ids =>
      show (state.elementsRemoved ids).quitRequested = _
      rw [elementsRemoved_eq, settleOutsideBatch_frame]
      simp [withRemoval]
    | endChanges =>
      show ({ state with inBatch := false } : State).settle.quitRequested = _
      rw [settle_frame]
      simp
  | panel text => simp [update]
  | selectElement selection element =>
    show (state.select selection element).quitRequested = _
    unfold select
    split <;> simp
  | unselectElement selection element =>
    show (state.unselect selection element).quitRequested = _
    unfold unselect
    split <;> simp
  | selectionChanged items => simp [update]
  | detailPressed path =>
    show (state.detailPressed path).quitRequested = _
    unfold detailPressed
    split
    · simp
    · split <;> simp
  | mouseEnter element => simp [update]
  | mouseLeave => simp [update]
  | controlEdited index event =>
    show (state.controlEdited index event).1.quitRequested = _
    unfold controlEdited
    split <;> simp
  | closeEditor => simp [update]
  | fit command => simp [update, fitCommand]

theorem after_quitRequested (state : State) (deeds : List Deed) :
    (state.after deeds).quitRequested = true ↔
      state.quitRequested = true ∨ .processed .quit ∈ deeds := by
  induction deeds generalizing state with
  | nil => simp [after]
  | cons deed rest ih =>
    cases deed with
    | processed message =>
      rw [after, ih, update_quitRequested, Bool.or_eq_true, decide_eq_true_eq, or_assoc,
        List.mem_cons, Deed.processed.injEq, @eq_comm _ message]
    | fired pick =>
      rw [after, ih]
      simp

end State

namespace Engine
variable {engine : Engine}

def handed? : Output → Option Handed
  | .handed handed => some handed
  | .event _ => none

def handedOver (outputs : List Output) : List Handed := outputs.filterMap handed?

theorem handedOver_append (first second : List Output) :
    handedOver (first ++ second) = handedOver first ++ handedOver second :=
  List.filterMap_append

theorem handedOver_handed (handed : List Handed) : handedOver (handed.map .handed) = handed := by
  rw [handedOver, List.filterMap_map]
  exact List.filterMap_some

theorem handedOver_events (events : List Event) : handedOver (events.map .event) = [] := by
  rw [handedOver, List.filterMap_map]
  exact List.filterMap_eq_nil_iff.mpr fun _ _ => rfl

-- A session comes to a result by deeds, if its state is then as they leave it and the frames that
-- they call for were sent, once each and in order.
structure Does (engine : Engine) (deeds : List Deed) (result : Engine × List Output) : Prop where
  state : result.1.state = engine.state.after deeds
  delivery : result.1.delivery = (engine.delivery.sendAll (engine.state.calledFor deeds)).1
  handed : handedOver result.2 = (engine.delivery.sendAll (engine.state.calledFor deeds)).2

-- Something else than the state and the delivery may have been put in order before and after.
theorem Does.around {deeds : List Deed} {made : Engine} {outputs : List Output}
    {before after : Engine} (does : before.Does deeds (made, outputs))
    (state : before.state = engine.state) (delivery : before.delivery = engine.delivery)
    (same_state : after.state = made.state) (same_delivery : after.delivery = made.delivery) :
    engine.Does deeds (after, outputs) := by
  obtain ⟨made_state, made_delivery, handed⟩ := does
  rw [state] at made_state made_delivery handed
  rw [delivery] at made_delivery handed
  exact ⟨same_state.trans made_state, same_delivery.trans made_delivery, handed⟩

theorem Does.nothing (engine : Engine) : engine.Does [] (engine, []) := ⟨rfl, rfl, rfl⟩

theorem Does.append {first second : List Deed} {middle final : Engine × List Output}
    (does : engine.Does first middle) (onward : middle.1.Does second final) :
    engine.Does (first ++ second) (final.1, middle.2 ++ final.2) := by
  obtain ⟨state, delivery, handed⟩ := does
  obtain ⟨final_state, final_delivery, final_handed⟩ := onward
  rw [state] at final_state final_delivery final_handed
  rw [delivery] at final_delivery final_handed
  constructor
  · rw [State.after_append]
    exact final_state
  · rw [State.calledFor_append, Delivery.sendAll_append]
    exact final_delivery
  · rw [State.calledFor_append, Delivery.sendAll_append, handedOver_append, handed, final_handed]

theorem process_does (engine : Engine) (message : Message) :
    engine.Does [.processed message] (engine.process message) := by
  obtain ⟨delivery, handed⟩ := performAll_sends
    { engine with state := (engine.state.update message).1 } (engine.state.update message).2
  have called : engine.state.calledFor [.processed message] =
      (engine.state.update message).2.filterMap Action.frame? := List.append_nil _
  refine ⟨process_state engine message, ?_, ?_⟩
  · rw [called]
    exact delivery
  · unfold process
    rw [called, handedOver_append, handedOver_handed, handedOver_events, List.append_nil]
    exact handed

theorem sendPicks_does (engine : Engine) (picks : List Pick) :
    engine.Does (picks.map .fired) (engine.sendPicks picks) := by
  refine ⟨(engine.state.after_fired picks).symm, ?_, ?_⟩
  · rw [State.calledFor_fired]
    rfl
  · rw [State.calledFor_fired]
    exact handedOver_handed _

theorem processAll_does (engine : Engine) (messages : List Message) :
    engine.Does (messages.map .processed) (engine.processAll messages) := by
  induction messages generalizing engine with
  | nil => exact .nothing engine
  | cons message rest ih => exact (process_does engine message).append (ih _)

def taken (engine : Engine) : List Message → List Message
  | [] => []
  | message :: rest =>
    if engine.shouldQuit then [] else message :: (engine.process message).1.taken rest

theorem runQueue_does (engine : Engine) (messages : List Message) :
    engine.Does ((engine.taken messages).map .processed) (engine.runQueue messages) := by
  induction messages generalizing engine with
  | nil => exact (Does.nothing engine).around rfl rfl rfl rfl
  | cons message rest ih =>
    unfold runQueue taken
    split
    · exact (Does.nothing engine).around rfl rfl rfl rfl
    · exact (process_does engine message).append (ih _)

inductive Operation where
  | process (message : Message)
  | enqueue (message : Message)
  | drain
  | run (limit : Nat)
  | advance (time : Nat)
  | shutdown

def operate (engine : Engine) : Operation → Engine × List Output
  | .process message => engine.process message
  | .enqueue message => (engine.enqueue message, [])
  | .drain => engine.drain
  | .run limit => ((engine.run limit).1, (engine.run limit).2.1)
  | .advance time => engine.advance time
  | .shutdown => engine.shutdown

def waitedFor (engine : Engine) (limit : Nat) : List Pick :=
  let ran := (engine.runQueue engine.queue).1
  if ran.shouldQuit then [] else (ran.hover.waitOut limit).2

def deedsOf (engine : Engine) : Operation → List Deed
  | .process message => [.processed message]
  | .enqueue _ => []
  | .drain => engine.queue.map .processed
  | .run limit =>
    (engine.taken engine.queue).map .processed ++ (engine.waitedFor limit).map .fired
  | .advance time => (engine.hover.advance time).2.map .fired
  | .shutdown => (engine.hover.finish (some shutdownLimit)).2.map .fired

theorem run_does (engine : Engine) (limit : Nat) :
    engine.Does (engine.deedsOf (.run limit)) (engine.operate (.run limit)) := by
  have ran := runQueue_does engine engine.queue
  unfold deedsOf operate waitedFor run
  dsimp only
  split
  · rw [List.map_nil, List.append_nil]
    exact ran
  · exact ran.append ((sendPicks_does _ _).around rfl rfl rfl rfl)

theorem operate_does (engine : Engine) (operation : Operation) :
    engine.Does (engine.deedsOf operation) (engine.operate operation) := by
  cases operation with
  | process message => exact process_does engine message
  | enqueue message =>
    show engine.Does [] (engine.enqueue message, [])
    unfold enqueue
    split
    · exact (Does.nothing engine).around rfl rfl rfl rfl
    · exact .nothing engine
  | drain => exact (processAll_does _ engine.queue).around rfl rfl rfl rfl
  | run limit => exact run_does engine limit
  | advance time => exact (sendPicks_does _ _).around rfl rfl rfl rfl
  | shutdown => exact (sendPicks_does _ _).around rfl rfl rfl rfl

def operateAll (engine : Engine) : List Operation → Engine × List Output
  | [] => (engine, [])
  | operation :: rest =>
    let operated := engine.operate operation
    let others := operated.1.operateAll rest
    (others.1, operated.2 ++ others.2)

def deedsOfAll (engine : Engine) : List Operation → List Deed
  | [] => []
  | operation :: rest => engine.deedsOf operation ++ (engine.operate operation).1.deedsOfAll rest

theorem operateAll_does (engine : Engine) (operations : List Operation) :
    engine.Does (engine.deedsOfAll operations) (engine.operateAll operations) := by
  induction operations generalizing engine with
  | nil => exact .nothing engine
  | cons operation rest ih => exact (operate_does engine operation).append (ih _)

theorem Does.lost {deeds : List Deed} {result : Engine × List Output}
    (does : engine.Does deeds result) :
    result.1.delivery.lost = true ↔
      engine.delivery.lost = true ∨ ∃ handed ∈ handedOver result.2, handed.Loses := by
  rw [does.delivery, does.handed, Delivery.lost_sendAll]

theorem Does.shouldQuit {deeds : List Deed} {result : Engine × List Output}
    (does : engine.Does deeds result) :
    result.1.shouldQuit = true ↔ engine.state.quitRequested = true ∨
      .processed .quit ∈ deeds ∨ result.1.delivery.lost = true := by
  rw [Engine.shouldQuit, Bool.or_eq_true, does.state, State.after_quitRequested, or_assoc]

theorem Does.shouldQuit_stays {deeds : List Deed} {result : Engine × List Output}
    (does : engine.Does deeds result) (quits : engine.shouldQuit = true) :
    result.1.shouldQuit = true := by
  rw [does.shouldQuit]
  rw [Engine.shouldQuit, Bool.or_eq_true] at quits
  rcases quits with asked | lost
  · exact .inl asked
  · exact .inr (.inr (does.lost.mpr (.inl lost)))

-- Whatever a transport answers, dispatchers hand over each frame once and in order, and they are
-- lost together and for good with the first answer that loses the transport. So it is with all that
-- a session does from its start: the frames that its deeds call for are handed over, and it should
-- end, from then on, once the message to quit was processed or its transport is lost.
theorem delivery_and_quit {settings : Settings} {transport : Transport} {engine : Engine}
    (made : ofSettings settings transport = .ok engine) (operations : List Operation) :
    let ran := engine.operateAll operations
    let deeds := engine.deedsOfAll operations
    (∀ frames : List Outgoing, ∀ dispatchers : Dispatchers,
      Dispatchers.Uses { transport } frames dispatchers →
        Dispatchers.Faithful transport frames dispatchers) ∧
    handedOver ran.2 = transport.answered (engine.state.calledFor deeds) ∧
    (ran.1.delivery.lost = true ↔ ∃ handed ∈ handedOver ran.2, handed.Loses) ∧
    (ran.1.shouldQuit = true ↔ .processed .quit ∈ deeds ∨ ran.1.delivery.lost = true) ∧
    ∀ more : List Operation, let later := ran.1.operateAll more
      (ran.1.delivery.lost = true → later.1.delivery.lost = true) ∧
      (ran.1.shouldQuit = true → later.1.shouldQuit = true) := by
  intro ran deeds
  obtain ⟨toolkit, rfl⟩ := start_eq made
  have does := operateAll_does (ofState (.ofToolkit settings toolkit) transport) operations
  refine ⟨fun _ _ used => Dispatchers.uses_faithful used, ?_, ?_, ?_, fun more => ⟨?_, ?_⟩⟩
  · exact does.handed.trans (transport.sendAll_answered _)
  · refine does.lost.trans ?_
    rw [or_iff_right]
    exact Bool.false_ne_true
  · refine does.shouldQuit.trans ?_
    rw [or_iff_right]
    exact Bool.false_ne_true
  · exact fun lost => (operateAll_does ran.1 more).lost.mpr (.inl lost)
  · exact (operateAll_does ran.1 more).shouldQuit_stays

def breaking : Transport := fun place _ =>
  match place with
  | 0 => some (.transport "busy")
  | 1 => some (.system "broken pipe")
  | _ => none

def hoverAndFits : List Operation := [
  .process hoverable, .process (.mouseEnter 5), .advance 200,
  .process (.fit (.selectFunction "pol1")), .process (.fit (.selectFunction "gaus")),
  .enqueue .quit, .run 500]

def clonedAndSent : Dispatchers :=
  ((Dispatchers.clone { transport := breaking } 0).send 0 (.panel "GETPARS:pol1")).send 0
    (.panel "GETPARS:gaus")

theorem clonedAndSent_uses : Dispatchers.Uses { transport := breaking }
    [.panel "GETPARS:pol1", .panel "GETPARS:gaus"] clonedAndSent :=
  ((Dispatchers.Uses.nothing.clone List.mem_cons_self).send List.mem_cons_self _).send
    List.mem_cons_self _

theorem delivery_and_quit_breaking :
    let ran := (ofState State.initial breaking).operateAll hoverAndFits
    handedOver ran.2 = [
      ⟨.call "NewElementPicked( 5, false, false )" ⟨90, "ROOT::Experimental::REveSelection"⟩,
        some (.transport "busy")⟩,
      ⟨.panel "GETPARS:pol1", some (.system "broken pipe")⟩,
      ⟨.panel "GETPARS:gaus", none⟩] ∧
    .processed .quit ∉ (ofState State.initial breaking).deedsOfAll hoverAndFits ∧
    ran.1.shouldQuit = true ∧
    (∀ more : List Operation, (ran.1.operateAll more).1.shouldQuit = true) ∧
    ∀ flag ∈ clonedAndSent.held, clonedAndSent.IsLost flag := by
  intro ran
  have made : ofSettings {} breaking = .ok (ofState State.initial breaking) := rfl
  obtain ⟨faithful, handed, lost, quits, remains⟩ := delivery_and_quit made hoverAndFits
  have called : (ofState State.initial breaking).state.calledFor
      ((ofState State.initial breaking).deedsOfAll hoverAndFits) = [
        .call "NewElementPicked( 5, false, false )" ⟨90, "ROOT::Experimental::REveSelection"⟩,
        .panel "GETPARS:pol1", .panel "GETPARS:gaus"] := by
    decide +kernel
  have broken : ⟨.panel "GETPARS:pol1", some (.system "broken pipe")⟩ ∈ handedOver ran.2 := by
    rw [handed, called]
    decide
  have ends := quits.mpr (.inr (lost.mpr ⟨_, broken, .inr ⟨_, rfl⟩⟩))
  refine ⟨?_, by decide +kernel, ends, fun more => (remains more).2 ends, fun flag held => ?_⟩
  · rw [handed, called]
    rfl
  · refine ((faithful _ _ clonedAndSent_uses).lost flag held).mpr
      ⟨⟨.panel "GETPARS:gaus", some (.system "broken pipe")⟩, ?_, .inr ⟨_, rfl⟩⟩
    exact List.mem_cons_of_mem _ List.mem_cons_self

end Engine
end SceneInspector
