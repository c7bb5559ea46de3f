import SceneInspector.Delivery

namespace SceneInspector

def Transport.answered (transport : Transport) (frames : List Outgoing) : List Handed :=
  frames.mapIdx fun place frame => ⟨frame, transport place frame⟩

def Handed.Loses (handed : Handed) : Prop :=
  handed.answer = some .transportClosed ∨ ∃ failure, handed.answer = some (.system failure)

theorem Handed.loses_iff {handed : Handed} :
    handed.Loses ↔ Delivery.losesTransport handed.answer = true := by
  constructor
  · rintro (closed | ⟨failure, broken⟩)
    · rw [closed]
      rfl
    · rw [broken]
      rfl
  · intro lost
    unfold Delivery.losesTransport at lost
    split at lost
    · rename_i fault answered
      cases fault with
      | system failure => exact .inr ⟨failure, answered⟩
      | transportClosed => exact .inl answered
      | _ => cases lost
    · cases lost

instance {handed : Handed} : Decidable handed.Loses := decidable_of_iff _ Handed.loses_iff.symm

namespace Delivery
variable {delivery : Delivery}

theorem sendAll_append (delivery : Delivery) (first second : List Outgoing) :
    delivery.sendAll (first ++ second) =
      (((delivery.sendAll first).1.sendAll second).1,
        (delivery.sendAll first).2 ++ ((delivery.sendAll first).1.sendAll second).2) := by
  induction first generalizing delivery with
  | nil => rfl
  | cons frame rest ih => rw [List.cons_append, sendAll, ih]; rfl

theorem sendAll_frame (delivery : Delivery) (frames : List Outgoing) :
    (delivery.sendAll frames).1 = { delivery with
      count := delivery.count + frames.length
      lost := delivery.lost ||
        (delivery.sendAll frames).2.any fun handed => losesTransport handed.answer } := by
  induction frames generalizing delivery with
  | nil => simp [sendAll]
  | cons frame rest ih =>
    rw [sendAll, ih]
    simp [send, Nat.add_assoc, Nat.add_comm 1, Bool.or_assoc]

theorem sendAll_handed (delivery : Delivery) (frames : List Outgoing) :
    (delivery.sendAll frames).2 = frames.mapIdx fun place frame =>
      ⟨frame, delivery.transport (delivery.count + place) frame⟩ := by
  induction frames generalizing delivery with
  | nil => rfl
  | cons frame rest ih =>
    rw [sendAll, ih, List.mapIdx_cons]
    simp [send, Nat.add_assoc, Nat.add_comm 1]

theorem lost_sendAll (delivery : Delivery) (frames : List Outgoing) :
    (delivery.sendAll frames).1.lost = true ↔
      delivery.lost = true ∨ ∃ handed ∈ (delivery.sendAll frames).2, handed.Loses := by
  rw [sendAll_frame]
  simp [Handed.loses_iff]

end Delivery

namespace Transport
variable {transport : Transport} {frames : List Outgoing}

def delivered (transport : Transport) (frames : List Outgoing) : Delivery :=
  (Delivery.sendAll { transport } frames).1

theorem sendAll_answered (transport : Transport) (frames : List Outgoing) :
    (Delivery.sendAll { transport } frames).2 = transport.answered frames := by
  rw [Delivery.sendAll_handed]
  simp [answered]

theorem answered_concat (transport : Transport) (frames : List Outgoing) (frame : Outgoing) :
    transport.answered (frames ++ [frame]) =
      transport.answered frames ++ [⟨frame, transport frames.length frame⟩] := by
  simp [answered]

theorem answered_subset (transport : Transport) (frames more : List Outgoing) :
    transport.answered frames ⊆ transport.answered (frames ++ more) := by
  rw [answered, answered, List.mapIdx_append]
  exact List.subset_append_left _ _

theorem lost_delivered : (transport.delivered frames).lost = true ↔
    ∃ handed ∈ transport.answered frames, handed.Loses := by
  rw [delivered, Delivery.lost_sendAll, sendAll_answered]
  simp

theorem lost_delivered_concat (frame : Outgoing) :
    (transport.delivered (frames ++ [frame])).lost =
      ((transport.delivered frames).lost ||
        Delivery.losesTransport (transport frames.length frame)) := by
  rw [Bool.eq_iff_iff, lost_delivered, Bool.or_eq_true, lost_delivered, answered_concat]
  simp [Handed.loses_iff, or_and_right, exists_or]

end Transport

-- The dispatchers of a session. Each is known by the number of the flag that it looks at and
-- raises: a dispatcher that is cloned hands on this number, and not a flag of its own.
structure Dispatchers where
  transport : Transport
  held : List Nat := [0]
  flags : List Bool := [false]
  handed : List Handed := []

namespace Dispatchers
variable {transport : Transport} {before after later : Dispatchers} {frames more : List Outgoing}

def clone (dispatchers : Dispatchers) (flag : Nat) : Dispatchers :=
  { dispatchers with held := dispatchers.held ++ [flag] }

def send (dispatchers : Dispatchers) (flag : Nat) (frame : Outgoing) : Dispatchers :=
  let answer := dispatchers.transport dispatchers.handed.length frame
  { dispatchers with
    flags :=
      if Delivery.losesTransport answer then dispatchers.flags.set flag true
      else dispatchers.flags
    handed := dispatchers.handed ++ [⟨frame, answer⟩] }

def IsLost (dispatchers : Dispatchers) (flag : Nat) : Prop :=
  dispatchers.flags[flag]? = some true

inductive Uses (before : Dispatchers) : List Outgoing → Dispatchers → Prop where
  | nothing : Uses before [] before
  | clone {frames : List Outgoing} {after : Dispatchers} {flag : Nat}
      (used : Uses before frames after) (held : flag ∈ after.held) :
      Uses before frames (after.clone flag)
  | send {frames : List Outgoing} {after : Dispatchers} {flag : Nat}
      (used : Uses before frames after) (held : flag ∈ after.held) (frame : Outgoing) :
      Uses before (frames ++ [frame]) (after.send flag frame)

theorem Uses.append (used : Uses before frames after) (onward : Uses after more later) :
    Uses before (frames ++ more) later := by
  induction onward with
  | nothing => rwa [List.append_nil]
  | clone _ held ih => exact .clone ih held
  | send _ held frame ih =>
    rw [← List.append_assoc]
    exact .send ih held frame

-- All dispatchers look at one flag, and it says what a single delivery of the frames says.
structure Agree (transport : Transport) (frames : List Outgoing) (dispatchers : Dispatchers) :
    Prop where
  sink : dispatchers.transport = transport
  shared : ∀ flag ∈ dispatchers.held, flag = 0
  flags : dispatchers.flags = [(transport.delivered frames).lost]
  handed : dispatchers.handed = transport.answered frames

theorem uses_agree (used : Uses { transport } frames after) : Agree transport frames after := by
  induction used with
  | nothing => exact ⟨rfl, by simp, rfl, rfl⟩
  | clone _ held ih =>
    refine ⟨ih.sink, fun flag among => ?_, ih.flags, ih.handed⟩
    rcases List.mem_append.mp among with before | new
    · exact ih.shared flag before
    · rw [List.mem_singleton.mp new]
      exact ih.shared _ held
  | @send frames after flag _ held frame ih =>
    obtain rfl := ih.shared flag held
    have count : after.handed.length = frames.length := by
      rw [ih.handed]
      exact List.length_mapIdx
    refine ⟨ih.sink, ih.shared, ?_, ?_⟩
    · rw [Transport.lost_delivered_concat, send, ih.sink, count, ih.flags]
      cases Delivery.losesTransport (transport frames.length frame) <;> simp
    · rw [Transport.answered_concat, send, ih.sink, count, ih.handed]

theorem isLost_iff (used : Uses { transport } frames after) {flag : Nat}
    (held : flag ∈ after.held) :
    after.IsLost flag ↔ ∃ handed ∈ transport.answered frames, handed.Loses := by
  have agree := uses_agree used
  obtain rfl := agree.shared flag held
  rw [IsLost, agree.flags, ← Transport.lost_delivered]
  simp

theorem Uses.held_of_held (used : Uses before frames after) {flag : Nat}
    (held : flag ∈ before.held) : flag ∈ after.held := by
  induction used with
  | nothing => exact held
  | clone _ _ ih => exact List.mem_append_left _ ih
  | send _ _ _ ih => exact ih

-- Each frame is handed over once and in order, whatever was answered before. A dispatcher is lost
-- from the first answer on that loses the transport, whichever dispatcher it was given to.
structure Faithful (transport : Transport) (frames : List Outgoing) (dispatchers : Dispatchers) :
    Prop where
  handed : dispatchers.handed = transport.answered frames
  lost : ∀ flag ∈ dispatchers.held,
    dispatchers.IsLost flag ↔ ∃ handed ∈ transport.answered frames, handed.Loses
  turns : ∀ sender ∈ dispatchers.held, ∀ flag ∈ dispatchers.held, ∀ frame : Outgoing,
    ¬ dispatchers.IsLost flag ∧ (dispatchers.send sender frame).IsLost flag ↔
      (∀ handed ∈ transport.answered frames, ¬ handed.Loses) ∧
        Handed.Loses ⟨frame, transport frames.length frame⟩
  stays : ∀ more : List Outgoing, ∀ later : Dispatchers, dispatchers.Uses more later →
    ∀ flag ∈ dispatchers.held, dispatchers.IsLost flag → later.IsLost flag

theorem uses_faithful (used : Uses { transport } frames after) :
    Faithful transport frames after := by
  refine ⟨(uses_agree used).handed, fun flag held => isLost_iff used held, ?_, ?_⟩
  · intro sender sends flag held frame
    rw [isLost_iff used held, isLost_iff (used.send sends frame) held,
      Transport.answered_concat]
    simp only [List.mem_append, List.mem_singleton, or_and_right, exists_or, exists_eq_left,
      not_exists, not_and]
    constructor
    · rintro ⟨never, before | now⟩
      · obtain ⟨handed, among, loses⟩ := before
        exact absurd loses (never handed among)
      · exact ⟨never, now⟩
    · rintro ⟨never, now⟩
      exact ⟨never, .inr now⟩
  · intro more later onward flag held lost
    obtain ⟨handed, among, loses⟩ := (isLost_iff used held).mp lost
    refine (isLost_iff (used.append onward) (onward.held_of_held held)).mpr ⟨handed, ?_, loses⟩
    exact transport.answered_subset frames more among

end Dispatchers
end SceneInspector
