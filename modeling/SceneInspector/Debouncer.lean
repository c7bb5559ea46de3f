namespace SceneInspector

structure Alarm (α : Type) where
  due : Nat
  action : α
deriving DecidableEq, Repr

-- Performs the latest of its actions once a quiet time has passed since it was scheduled. Time is
-- counted in milliseconds and moves only when it is told to. A detached action is one that was
-- waited for in vain: it comes at its moment and nothing can cancel it any more.
structure Debouncer (α : Type) where
  delay : Nat
  clock : Nat := 0
  pending : Option (Alarm α) := none
  detached : List (Alarm α) := []
deriving DecidableEq, Repr

namespace Debouncer
variable {α : Type}

def isPending (timer : Debouncer α) : Bool := timer.pending.isSome

def schedule (timer : Debouncer α) (action : α) : Debouncer α :=
  { timer with pending := some ⟨timer.clock + timer.delay, action⟩ }

def cancel (timer : Debouncer α) : Debouncer α := { timer with pending := none }

-- Moves the clock to a moment and performs, in order, what goes by then; detached actions were
-- scheduled before the pending one.
def moveTo (timer : Debouncer α) (clock : Nat) (goes : Alarm α → Bool) : Debouncer α × List α :=
  ({ timer with
      clock
      pending := timer.pending.filter (! goes ·)
      detached := timer.detached.filter (! goes ·) },
    ((timer.detached ++ timer.pending.toList).filter goes).map (·.action))

def advance (timer : Debouncer α) (time : Nat) : Debouncer α × List α :=
  let clock := timer.clock + time
  timer.moveTo clock fun alarm => alarm.due ≤ clock

-- Waits until a limit is reached. The limit comes first: what is due at the same moment is left for
-- the next time that time is given to the actions.
def waitOut (timer : Debouncer α) (limit : Nat) : Debouncer α × List α :=
  let clock := timer.clock + limit
  timer.moveTo clock fun alarm => alarm.due < clock

def finish (timer : Debouncer α) (limit : Option Nat) : Debouncer α × List α :=
  match timer.pending with
  | none => (timer, [])
  | some alarm =>
    let wait := alarm.due - timer.clock
    match limit with
    | none => timer.advance wait
    | some limit =>
      if wait < limit then timer.advance wait
      else { timer with pending := none, detached := timer.detached ++ [alarm] }.waitOut limit

end SceneInspector.Debouncer
