import Mathlib.Algebra.GroupWithZero.Nat
import SceneInspector.Proofs.EventLog

namespace SceneInspector

-- What a run has to do with picks, in order: one is asked for, a pick that waits is called off, and
-- time passes.
inductive Beat where
  | ask (pick : Pick)
  | stop
  | rest (time : Nat)
deriving DecidableEq, Repr

namespace Beat

def quiet : List Beat → List Nat
  | .rest time :: later => time :: quiet later
  | _ => []

def Ripens (wait : Nat) (later : List Beat) : Prop :=
  quiet later ≠ [] ∧ wait ≤ (quiet later).sum

instance (wait : Nat) (later : List Beat) : Decidable (Ripens wait later) :=
  inferInstanceAs (Decidable (_ ∧ _))

def ripe (delay : Nat) : List Beat → List Pick
  | [] => []
  | .ask pick :: later =>
    if Ripens delay later then pick :: ripe delay later else ripe delay later
  | _ :: later => ripe delay later

theorem not_ripens_nil (wait : Nat) : ¬ Ripens wait [] := fun ripens => ripens.1 rfl

theorem not_ripens_ask (wait : Nat) (pick : Pick) (later : List Beat) :
    ¬ Ripens wait (.ask pick :: later) := fun ripens => ripens.1 rfl

theorem not_ripens_stop (wait : Nat) (later : List Beat) : ¬ Ripens wait (.stop :: later) :=
  fun ripens => ripens.1 rfl

theorem ripens_rest (wait time : Nat) (later : List Beat) :
    Ripens wait (.rest time :: later) ↔ wait ≤ time ∨ Ripens (wait - time) later := by
  simp only [Ripens, quiet, List.sum_cons]
  constructor
  · rintro ⟨_, enough⟩
    by_cases first : wait ≤ time
    · exact .inl first
    · refine .inr ⟨fun nothing => ?_, by omega⟩
      rw [nothing, List.sum_nil] at enough
      omega
  · rintro (first | ⟨_, enough⟩)
    · exact ⟨List.cons_ne_nil _ _, by omega⟩
    · exact ⟨List.cons_ne_nil _ _, by omega⟩

end Beat

def Action.beat? : Action → Option Beat
  | .highlight pick => some (.ask pick)
  | .cancelHighlight => some .stop
  | _ => none

def Action.frame? : Action → Option Outgoing
  | .invoke call target => some (.ofCall call target)
  | .sendPanel text => some (.panel text)
  | _ => none

inductive Occurrence where
  | message (message : Message)
  | pause (time : Nat)

def Occurrence.isPause : Occurrence → Bool
  | .message _ => false
  | .pause _ => true

namespace State

def beats (state : State) : List Occurrence → List Beat
  | [] => []
  | .message message :: later =>
    (state.update message).2.filterMap Action.beat? ++ (state.update message).1.beats later
  | .pause time :: later => .rest time :: state.beats later

def asked (state : State) : List Occurrence → List Outgoing
  | [] => []
  | .message message :: later =>
    (state.update message).2.filterMap Action.frame? ++ (state.update message).1.asked later
  | .pause _ :: later => state.asked later

end State

namespace Debouncer
open Beat

def turn (timer : Debouncer Pick) : Action → Debouncer Pick
  | .highlight pick => timer.schedule pick
  | .cancelHighlight => timer.cancel
  | _ => timer

def coming (timer : Debouncer Pick) (later : List Beat) : List Pick :=
  match timer.pending with
  | some alarm => if Ripens (alarm.due - timer.clock) later then [alarm.action] else []
  | none => []

-- What is to come of a timer and of the beats after it.
def upcoming (timer : Debouncer Pick) (later : List Beat) : List Pick :=
  timer.coming later ++ ripe timer.delay later

theorem coming_eq_nil (timer : Debouncer Pick) {later : List Beat}
    (never : ∀ wait, ¬ Ripens wait later) : timer.coming later = [] := by
  unfold coming
  split
  · exact if_neg (never _)
  · rfl

-- Actions move the pick that waits, and nothing else of the timer.
theorem turns_frame (timer : Debouncer Pick) (actions : List Action) :
    actions.foldl turn timer = { timer with pending := (actions.foldl turn timer).pending } := by
  induction actions generalizing timer with
  | nil => rfl
  | cons action rest ih =>
    have once : timer.turn action = { timer with pending := (timer.turn action).pending } := by
      cases action <;> rfl
    rw [List.foldl_cons, ih, once]

theorem coming_schedule (timer : Debouncer Pick) (pick : Pick) (later : List Beat) :
    (timer.schedule pick).coming later = if Ripens timer.delay later then [pick] else [] := by
  simp only [coming, schedule, Nat.add_sub_cancel_left]

theorem upcoming_turn (timer : Debouncer Pick) (action : Action) (later : List Beat) :
    timer.upcoming (action.beat?.toList ++ later) = (timer.turn action).upcoming later := by
  cases action with
  | invoke call target => rfl
  | sendPanel text => rfl
  | highlight pick =>
    have nothing : timer.coming (.ask pick :: later) = [] :=
      timer.coming_eq_nil fun wait => not_ripens_ask wait pick later
    show timer.coming (.ask pick :: later) ++ ripe timer.delay (.ask pick :: later) =
      (timer.schedule pick).coming later ++ ripe timer.delay later
    rw [nothing, coming_schedule, ripe]
    split <;> rfl
  | cancelHighlight =>
    exact congrArg (· ++ ripe timer.delay later)
      (timer.coming_eq_nil fun wait => not_ripens_stop wait later)

theorem upcoming_turns (timer : Debouncer Pick) (actions : List Action) (later : List Beat) :
    timer.upcoming (actions.filterMap Action.beat? ++ later) =
      (actions.foldl turn timer).upcoming later := by
  induction actions generalizing timer with
  | nil => rfl
  | cons action rest ih =>
    have first := timer.upcoming_turn action (rest.filterMap Action.beat? ++ later)
    rw [List.foldl_cons, ← ih, ← first, ← List.append_assoc]
    congr 2
    cases action <;> rfl

-- What goes when time passes, and what is then to come, is what was to come.
theorem upcoming_advance (timer : Debouncer Pick) (none_detached : timer.detached = [])
    (time : Nat) (later : List Beat) :
    timer.upcoming (.rest time :: later) =
      (timer.advance time).2 ++ (timer.advance time).1.upcoming later := by
  obtain ⟨delay, clock, pending, detached⟩ := timer
  obtain rfl : detached = [] := none_detached
  cases pending with
  | none => rfl
  | some alarm =>
    obtain ⟨due, pick⟩ := alarm
    have reached : due - clock ≤ time ↔ due ≤ clock + time := by omega
    have ripens := ripens_rest (due - clock) time later
    by_cases past : due ≤ clock + time
    · have now : Ripens (due - clock) (.rest time :: later) := ripens.mpr (.inl (reached.mpr past))
      simp [upcoming, coming, advance, moveTo, ripe, Option.filter, now, past]
    · have still : Ripens (due - clock) (.rest time :: later) ↔
          Ripens (due - (clock + time)) later := by
        rw [ripens, Nat.sub_sub]
        exact or_iff_right (reached.not.mpr past)
      simp [upcoming, coming, advance, moveTo, ripe, Option.filter, if_congr still, past]

end Debouncer

namespace Engine
open Beat

def meet (engine : Engine) : Occurrence → Engine × List Output
  | .message message => engine.process message
  | .pause time => engine.advance time

def transcript (engine : Engine) : List Occurrence → List (Occurrence × List Output)
  | [] => []
  | occurrence :: later =>
    (occurrence, (engine.meet occurrence).2) :: (engine.meet occurrence).1.transcript later

def frame? : Output → Option Outgoing
  | .handed handed => some handed.frame
  | .event _ => none

def frames (outputs : List Output) : List Outgoing := outputs.filterMap frame?

def framesAt (records : List (Occurrence × List Output)) : List Outgoing :=
  records.flatMap fun record => frames record.2

theorem frames_handed (handed : List Handed) :
    frames (handed.map .handed) = handed.map (·.frame) := by
  rw [frames, List.filterMap_map, ← List.filterMap_eq_map]
  rfl

theorem frames_events (events : List Event) : frames (events.map .event) = [] := by
  rw [frames, List.filterMap_map]
  exact List.filterMap_eq_nil_iff.mpr fun _ _ => rfl

theorem performAll_hover (engine : Engine) (actions : List Action) :
    (engine.performAll actions).1.hover = actions.foldl Debouncer.turn engine.hover := by
  induction actions generalizing engine with
  | nil => rfl
  | cons action rest ih =>
    have once : (engine.perform action).1.hover = engine.hover.turn action := by
      cases action <;> rfl
    rw [List.foldl_cons, ← once]
    exact ih _

theorem sendAll_frames (delivery : Delivery) (outgoing : List Outgoing) :
    (delivery.sendAll outgoing).2.map (·.frame) = outgoing := by
  induction outgoing generalizing delivery with
  | nil => rfl
  | cons frame rest ih => exact congrArg (frame :: ·) (ih _)

theorem performAll_sends (engine : Engine) (actions : List Action) :
    (engine.performAll actions).1.delivery =
        (engine.delivery.sendAll (actions.filterMap Action.frame?)).1 ∧
      (engine.performAll actions).2 =
        (engine.delivery.sendAll (actions.filterMap Action.frame?)).2 := by
  induction actions generalizing engine with
  | nil => exact ⟨rfl, rfl⟩
  | cons action rest ih =>
    obtain ⟨delivery, handed⟩ := ih (engine.perform action).1
    rw [performAll]
    dsimp only
    rw [delivery, handed]
    cases action <;> exact ⟨rfl, rfl⟩

theorem performAll_frames (engine : Engine) (actions : List Action) :
    (engine.performAll actions).2.map (·.frame) = actions.filterMap Action.frame? := by
  rw [(performAll_sends engine actions).2]
  exact sendAll_frames _ _

theorem process_hover (engine : Engine) (message : Message) :
    (engine.process message).1.hover =
      (engine.state.update message).2.foldl Debouncer.turn engine.hover :=
  performAll_hover _ _

theorem process_frames (engine : Engine) (message : Message) :
    frames (engine.process message).2 =
      (engine.state.update message).2.filterMap Action.frame? := by
  unfold process
  rw [frames, List.filterMap_append, ← frames, ← frames, frames_handed, frames_events,
    List.append_nil]
  exact performAll_frames _ _

theorem advance_frames (engine : Engine) (time : Nat) :
    frames (engine.advance time).2 = (engine.hover.advance time).2.map Pick.frame := by
  unfold advance sendPicks
  rw [frames_handed]
  exact sendAll_frames _ _

theorem meet_detached (engine : Engine) (none_detached : engine.hover.detached = [])
    (occurrence : Occurrence) : (engine.meet occurrence).1.hover.detached = [] := by
  cases occurrence with
  | message message =>
    rw [meet, process_hover, Debouncer.turns_frame]
    exact none_detached
  | pause time =>
    show engine.hover.detached.filter _ = []
    rw [none_detached]
    rfl

-- What goes out while time passes is what was to come when it began to.
theorem transcript_pauses (engine : Engine) (none_detached : engine.hover.detached = [])
    (occurrences : List Occurrence) :
    framesAt ((engine.transcript occurrences).filter (·.1.isPause)) =
      (engine.hover.upcoming (engine.state.beats occurrences)).map Pick.frame := by
  induction occurrences generalizing engine with
  | nil =>
    have nothing := engine.hover.coming_eq_nil not_ripens_nil
    rw [transcript, State.beats, Debouncer.upcoming, nothing]
    rfl
  | cons occurrence later ih =>
    have onward := ih (engine.meet occurrence).1 (engine.meet_detached none_detached occurrence)
    cases occurrence with
    | message message =>
      rw [State.beats, Debouncer.upcoming_turns, ← process_hover, ← process_state]
      exact onward
    | pause time =>
      rw [State.beats, Debouncer.upcoming_advance _ none_detached, List.map_append,
        ← advance_frames]
      exact congrArg (frames (engine.advance time).2 ++ ·) onward

theorem transcript_messages (engine : Engine) (occurrences : List Occurrence) :
    framesAt ((engine.transcript occurrences).filter (!·.1.isPause)) =
      engine.state.asked occurrences := by
  induction occurrences generalizing engine with
  | nil => rfl
  | cons occurrence later ih =>
    have onward := ih (engine.meet occurrence).1
    cases occurrence with
    | message message =>
      rw [State.asked, ← process_frames, ← process_state]
      exact congrArg (frames (engine.process message).2 ++ ·) onward
    | pause time => exact onward

def callsPick : Outgoing → Bool
  | .call command _ => "NewElementPicked(".toList.isPrefixOf command.toList
  | .panel _ => false

theorem frame_eq (pick : Pick) : pick.frame =
    .call ("NewElementPicked( " ++ toString (pick.element.getD 0).toNat ++ ", false, false )")
      ⟨pick.selection, "ROOT::Experimental::REveSelection"⟩ := by
  have target : Element.typeNamespace ++ "REveSelection" = "ROOT::Experimental::REveSelection" := by
    decide
  simp [Pick.frame, Pick.call, Pick.target, Outgoing.ofCall, Call.command, Call.Argument.text,
    String.append_assoc, target]

theorem callsPick_frame (pick : Pick) : callsPick pick.frame = true := by
  have start : "NewElementPicked( ".toList = "NewElementPicked(".toList ++ [' '] := by decide
  rw [frame_eq, callsPick, String.toList_append, String.toList_append, start, List.append_assoc,
    List.append_assoc, List.isPrefixOf_iff_prefix]
  exact List.prefix_append _ _

-- Where no message asks for a call of that name itself, such a call is a pick that went out while
-- time passed.
theorem transcript_picks (engine : Engine) (occurrences : List Occurrence)
    (none_asked : ∀ frame ∈ engine.state.asked occurrences, callsPick frame = false) :
    (framesAt (engine.transcript occurrences)).filter callsPick =
      framesAt ((engine.transcript occurrences).filter (·.1.isPause)) := by
  induction occurrences generalizing engine with
  | nil => rfl
  | cons occurrence later ih =>
    cases occurrence with
    | message message =>
      rw [State.asked, ← process_frames, ← process_state] at none_asked
      have onward := ih (engine.process message).1 fun frame asked =>
        none_asked frame (List.mem_append_right _ asked)
      have here : (frames (engine.process message).2).filter callsPick = [] := by
        rw [List.filter_eq_nil_iff]
        intro frame asked
        simp [none_asked frame (List.mem_append_left _ asked)]
      show (frames (engine.process message).2 ++ framesAt _).filter callsPick = _
      rw [List.filter_append, here]
      exact onward
    | pause time =>
      have onward := ih (engine.advance time).1 none_asked
      have here : (frames (engine.advance time).2).filter callsPick =
          frames (engine.advance time).2 := by
        rw [List.filter_eq_self, advance_frames]
        intro frame sent
        obtain ⟨pick, _, rfl⟩ := List.mem_map.mp sent
        exact callsPick_frame pick
      show (frames (engine.advance time).2 ++ framesAt _).filter callsPick = _
      rw [List.filter_append, here]
      exact congrArg (frames (engine.advance time).2 ++ ·) onward

-- While time passes the picks go out that were left alone for the whole delay, in the order in
-- which they were asked for and each once, with the element and the selection it was asked for.
-- The messages of a run hand over what they ask for themselves and no pick, so that the picks are
-- all the calls of their name, unless a message asks for a call by this very name.
theorem picks_debounced {settings : Settings} {transport : Transport} {engine : Engine}
    (made : ofSettings settings transport = .ok engine) (occurrences : List Occurrence) :
    let records := engine.transcript occurrences
    let picks := ripe settings.summary.highlightDelay (engine.state.beats occurrences)
    framesAt (records.filter (·.1.isPause)) = picks.map Pick.frame ∧
    framesAt (records.filter (!·.1.isPause)) = engine.state.asked occurrences ∧
    ((∀ frame ∈ engine.state.asked occurrences, callsPick frame = false) →
      (framesAt records).filter callsPick = picks.map Pick.frame) ∧
    ∀ pick : Pick, pick.frame =
      .call ("NewElementPicked( " ++ toString (pick.element.getD 0).toNat ++ ", false, false )")
        ⟨pick.selection, "ROOT::Experimental::REveSelection"⟩ := by
  intro records picks
  obtain ⟨toolkit, rfl⟩ := start_eq made
  have sent : framesAt (records.filter (·.1.isPause)) = picks.map Pick.frame :=
    transcript_pauses _ rfl occurrences
  refine ⟨sent, transcript_messages _ occurrences, fun none_asked => ?_, frame_eq⟩
  exact (transcript_picks _ occurrences none_asked).trans sent

def hoverable : Message := .scene (.managerInit
  (.cons { id := 2, name := "Event" } (.cons { id := 5, name := "Track" } .empty .empty)
    (.cons { id := 90, name := "Global Highlight", typeName := "REveSelection" } .empty .empty)))

-- Two hovers in a burst, of which the second is left alone in two stretches; then one that is
-- followed by another start of the backend.
def hovers : List Occurrence := [
  .message hoverable, .message (.mouseEnter 2), .pause 150, .message (.mouseEnter 5),
  .message (.selectElement 90 2), .pause 120, .pause 80, .pause 500, .message .mouseLeave,
  .pause 199, .message hoverable, .pause 500]

theorem picks_debounced_track :
    let records := (ofState State.initial .open).transcript hovers
    (framesAt records).filter callsPick = [.call "NewElementPicked( 5, false, false )"
      ⟨90, "ROOT::Experimental::REveSelection"⟩] := by
  intro records
  have made : ofSettings {} .open = .ok (ofState State.initial .open) := rfl
  obtain ⟨_, _, picks, frame⟩ := picks_debounced made hovers
  have ripened : ripe 200 ((ofState State.initial .open).state.beats hovers) = [⟨some 5, 90⟩] := by
    decide +kernel
  have none_asked : (ofState State.initial .open).state.asked hovers = [] := by decide +kernel
  refine (picks fun frame asked => ?_).trans ?_
  · rw [none_asked] at asked
    cases asked
  · show (ripe 200 _).map Pick.frame = _
    rw [ripened, List.map_singleton, frame]
    decide

end Engine
end SceneInspector
