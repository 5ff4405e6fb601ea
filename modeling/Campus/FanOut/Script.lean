import Campus.FanOut

/-! # Scripted fetches

A worker whose fetches take a set time and end in a set way, and that keeps a history of what started and what finished.
-/
namespace Campus.FanOut

structure Script (ε : Type) where
  delay : Span
  ending : Ending ε

inductive Mark where
  | started (id : String)
  | finished (id : String)
  deriving DecidableEq, Repr

abbrev History := List Mark

namespace History

def startedIds (h : History) : List String := h.filterMap fun
  | .started id => some id
  | .finished _ => none

def finishedIds (h : History) : List String := h.filterMap fun
  | .finished id => some id
  | .started _ => none

/-- How many fetches have started and not finished. -/
def busy (h : History) : Nat := h.startedIds.length - h.finishedIds.length

/-- The most fetches that were busy at one time, when so many are busy at first. -/
def peakFrom (busy : Nat) : History → Nat
  | [] => busy
  | .started _ :: rest => max busy (peakFrom (busy + 1) rest)
  | .finished _ :: rest => max busy (peakFrom (busy - 1) rest)

def peak (h : History) : Nat := h.peakFrom 0

end History

def scripted {ε : Type} (script : String → Script ε) : Worker History (String × Ending ε) ε where
  start now _ id h :=
    let s := script id
    if s.delay = 0 then (.ended s.ending, h ++ [.started id, .finished id])
    else (.running (now + s.delay) (id, s.ending), h ++ [.started id])
  finish _ f h := (f.2, h ++ [.finished f.1])
  abandon _ _ h := h

end Campus.FanOut
