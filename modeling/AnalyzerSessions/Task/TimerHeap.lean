import AnalyzerSessions.Number.Arithmetic

namespace AnalyzerSessions

open Number

/-!
# Timers

The timers that are running stand in a binary heap: behind place `i` come the
places `2 * i + 1` and `2 * i + 2`, and no timer is due before the one that it
comes behind.  Timers that are due at the same time come in the order that the
places give them, and not in the order in which they were started.  A cancelled
timer stays in its place until it is the first, or until so many are cancelled
that the heap is built anew without them.
-/

/-- A promise that is settled when a time has come. -/
structure Timer where
  due : Binary64
  promise : Nat
  /-- Whether nobody waits for it any more. -/
  isCancelled : Bool
  deriving Repr, DecidableEq

/-- Whether a timer is due before another one. -/
def Timer.isBefore (timer other : Timer) : Bool :=
  timer.due.isBelow other.due

/-- Timers in the places of a heap. -/
structure TimerHeap where
  places : List Timer
  /-- The cancelled timers that were not removed as such; one that is taken because it is due
  still counts. -/
  cancelled : Nat
  deriving Repr, DecidableEq

namespace TimerHeap

/-- A heap without timers. -/
def empty : TimerHeap := ⟨[], 0⟩

/-- The place that a place comes behind. -/
def parent (place : Nat) : Nat := (place - 1) / 2

/-- Put a timer at a free place or above, but not above `top`: the timers above that it is before
move down.  The number of steps up is bounded by `fuel`. -/
def siftUp : (fuel : Nat) → (top : Nat) → List Timer → (place : Nat) → Timer → List Timer
  | 0, _, places, place, timer => places.set place timer
  | fuel + 1, top, places, place, timer =>
    if place ≤ top then places.set place timer
    else
      match places[parent place]? with
      | none => places.set place timer
      | some above =>
        if timer.isBefore above then
          siftUp fuel top (places.set place above) (parent place) timer
        else places.set place timer

/-- Start a timer. -/
def insert (heap : TimerHeap) (timer : Timer) : TimerHeap :=
  { heap with
    places := siftUp heap.places.length 0 (heap.places ++ [timer]) heap.places.length timer }

/-- The place behind a place that moves up when that becomes free, with its timer: the left one
only if its timer is before the other. -/
def successor? (places : List Timer) (place : Nat) : Option (Nat × Timer) :=
  match places[2 * place + 1]?, places[2 * place + 2]? with
  | none, _ => none
  | some left, none => some (2 * place + 1, left)
  | some left, some right =>
    if left.isBefore right then some (2 * place + 1, left) else some (2 * place + 2, right)

/-- Move timers up into a free place until a place without successors is free.
The number of steps down is bounded by `fuel`. -/
def sink : (fuel : Nat) → List Timer → (place : Nat) → List Timer × Nat
  | 0, places, place => (places, place)
  | fuel + 1, places, place =>
    match successor? places place with
    | none => (places, place)
    | some (below, timer) => sink fuel (places.set place timer) below

/-- Put a timer at a free place or below: it goes down to the leaves and up again. -/
def place (places : List Timer) (top : Nat) (timer : Timer) : List Timer :=
  let (sunk, free) := sink places.length places top
  siftUp places.length top sunk free timer

/-- The places without their first timer: the last timer takes its place. -/
def withoutFirst (places : List Timer) : List Timer :=
  match places.dropLast, places.getLast? with
  | first :: rest, some last => place (first :: rest) 0 last
  | _, _ => []

/-- The heap without its first timer. -/
def removeFirst (heap : TimerHeap) : TimerHeap :=
  { heap with places := withoutFirst heap.places }

/-- Timers in any order in the places of a heap: from the last place with successors on, each
timer finds its place among those behind it. -/
def arranged (timers : List Timer) : List Timer :=
  (List.range (timers.length / 2)).reverse.foldl (fun places top =>
    match places[top]? with
    | some timer => place places top timer
    | none => places) timers

/-- Mark the timer of a promise as cancelled; it stays in its place. -/
def cancel (heap : TimerHeap) (promise : Nat) : TimerHeap where
  places := heap.places.map fun timer =>
    if timer.promise = promise then { timer with isCancelled := true } else timer
  cancelled := heap.cancelled +
    heap.places.countP fun timer => timer.promise = promise && !timer.isCancelled

/-- Remove cancelled timers as long as the first one is cancelled, at most as many as `fuel`. -/
def pruneWithin : (fuel : Nat) → TimerHeap → TimerHeap
  | 0, heap => heap
  | fuel + 1, heap =>
    match heap.places.head? with
    | none => heap
    | some first =>
      if first.isCancelled then
        pruneWithin fuel { heap.removeFirst with cancelled := heap.cancelled - 1 }
      else heap

/-- Remove cancelled timers as long as the first one is cancelled. -/
def prune (heap : TimerHeap) : TimerHeap :=
  pruneWithin heap.places.length heap

/-- Remove all cancelled timers, and arrange the others anew. -/
def rebuild (heap : TimerHeap) : TimerHeap :=
  ⟨arranged (heap.places.filter fun timer => !timer.isCancelled), 0⟩

/-- The number of timers up to which a heap is never built anew. -/
def smallSize : Nat := 100

/-- Whether a large heap counts more than half of its timers as cancelled. -/
def isStale (heap : TimerHeap) : Bool :=
  smallSize < heap.places.length && heap.places.length < 2 * heap.cancelled

/-- Remove cancelled timers: all of them if there are many, else those in front. -/
def tidy (heap : TimerHeap) : TimerHeap :=
  if heap.isStale then heap.rebuild else heap.prune

/-- How close to its time a timer counts as due, in seconds. -/
def resolution : Binary64 := .ofDecimal false 1 (-9)

/-- Whether a timer is due; one whose time is not a number always is. -/
def isDue (now : Binary64) (timer : Timer) : Bool :=
  !timer.due.isAtLeast (now.add resolution) || now.isAtLeast timer.due

/-- Take timers as long as the first one is due, at most as many as `fuel`. -/
def takeDueWithin : (fuel : Nat) → (now : Binary64) → TimerHeap → List Timer × TimerHeap
  | 0, _, heap => ([], heap)
  | fuel + 1, now, heap =>
    match heap.places.head? with
    | none => ([], heap)
    | some first =>
      if isDue now first then
        let (taken, rest) := takeDueWithin fuel now heap.removeFirst
        (first :: taken, rest)
      else ([], heap)

/-- Take timers as long as the first one is due, in the order of the heap. -/
def takeDue (now : Binary64) (heap : TimerHeap) : List Timer × TimerHeap :=
  takeDueWithin heap.places.length now heap

/-- Whether the first timer is due. -/
def firstIsDue (now : Binary64) (heap : TimerHeap) : Bool :=
  (heap.places.head?.map (isDue now)).getD false

/-- The time of the first timer, unless that never comes. -/
def nextTime? (heap : TimerHeap) : Option Binary64 :=
  (heap.places.head?.map Timer.due).filter fun due => due != .infinite false

end TimerHeap

end AnalyzerSessions
