import ApiGateway.Text

/-! # Shutdown

One signal reaches every task that has subscribed to it. Tasks hold receivers, and whoever may give
the signal holds a handle. The signal is kept for a receiver until it looks, but only the last one:
a receiver that has missed more is told how many.
-/

namespace ApiGateway

structure Shutdown where
  /-- For each handle, whether it is still held. -/
  handles : List Bool := [true]
  /-- For each receiver that is still held, how many signals it has been told about, counted from
  the first signal ever given. -/
  receivers : List (Option Nat) := []
  given : Nat := 0
  deriving DecidableEq, Repr

namespace Shutdown

inductive Step
  | subscribe (handle : Nat)
  | trigger (handle : Nat)
  | count (handle : Nat)
  | clone (handle : Nat)
  | dropHandle (handle : Nat)
  | dropReceiver (receiver : Nat)
  | receive (receiver : Nat)
  deriving DecidableEq, Repr

inductive Notice
  | received
  | empty
  | closed
  | lagged (missed : Nat)
  deriving DecidableEq, Repr

/-- What a step returns; new handles and receivers are known by their index. -/
inductive Reply
  | index (n : Nat)
  | number (n : Nat)
  | triggered
  | dropped
  | notice (notice : Notice)
  deriving DecidableEq, Repr

def isOpen (s : Shutdown) : Bool := s.handles.any id

def receiverCount (s : Shutdown) : Nat := (s.receivers.filter Option.isSome).length

/-- What a receiver that has been told about `told` signals finds, and how many it knows of then.
-/
def look (s : Shutdown) (told : Nat) : Notice × Nat :=
  match s.given - told with
  | 0 => (if s.isOpen then .empty else .closed, told)
  | 1 => (.received, told + 1)
  | missed + 2 => (.lagged (missed + 1), s.given - 1)

/-- Takes a step, unless it names a handle or a receiver that is not held. -/
def step (s : Shutdown) : Step → Option (Reply × Shutdown)
  | .subscribe h =>
    if s.handles[h]? = some true then
      some (.index s.receivers.length, { s with receivers := s.receivers ++ [some s.given] })
    else none
  | .trigger h =>
    if s.handles[h]? = some true then some (.triggered, { s with given := s.given + 1 })
    else none
  | .count h => if s.handles[h]? = some true then some (.number s.receiverCount, s) else none
  | .clone h =>
    if s.handles[h]? = some true then
      some (.index s.handles.length, { s with handles := s.handles ++ [true] })
    else none
  | .dropHandle h =>
    if s.handles[h]? = some true then some (.dropped, { s with handles := s.handles.set h false })
    else none
  | .dropReceiver r =>
    match s.receivers[r]? with
    | some (some _) => some (.dropped, { s with receivers := s.receivers.set r none })
    | _ => none
  | .receive r =>
    match s.receivers[r]? with
    | some (some told) =>
      let (notice, told) := s.look told
      some (.notice notice, { s with receivers := s.receivers.set r (some told) })
    | _ => none

/-- Takes steps in order, up to the first that cannot be taken. -/
def run (s : Shutdown) : List Step → List Reply × Shutdown
  | [] => ([], s)
  | step :: steps =>
    match s.step step with
    | none => ([], s)
    | some (reply, s) =>
      let (replies, s) := s.run steps
      (reply :: replies, s)

end Shutdown

end ApiGateway
