import TablePipeline.Feed

/-!
Batches and workers. Rows are read in batches; a single worker works on one batch after the other.
Several workers have a window of batches in flight: it is filled before a result is taken from it.
Results are taken in the order of the batches, or as the batches are finished. A feed that fails
while the window is being filled takes the batches in the window with it.
-/
namespace TablePipeline

/-- How batches are worked on. -/
structure Scheduling where
  workers : Nat := 1
  /-- The most batches in flight. -/
  window : Nat := workers * 2
  /-- What is said where there are no workers. -/
  refusal : EvalFault := .noWorkers
  preserveOrder : Bool := true
  /-- Which of the batches in flight is finished first, at each turn; it is taken modulo their
  number. -/
  finished : Nat → Nat := fun _ => 0

namespace Scheduling

variable {α β : Type}

/-- The place of the batch in flight whose result is taken at a turn. -/
def choice (s : Scheduling) (turn inFlight : Nat) : Nat :=
  if s.preserveOrder then 0 else s.finished turn % inFlight

/-- The batches in flight and the unread ones after the window has been filled, or the failure that
was met while filling it. -/
def fill (s : Scheduling) (inFlight unread : List β) (fault : Option Fault) :
    Except Fault (List β × List β) :=
  let room := s.window - inFlight.length
  match fault with
  | some fault =>
    if unread.length < room then .error fault
    else .ok (inFlight ++ unread.take room, unread.drop room)
  | none => .ok (inFlight ++ unread.take room, unread.drop room)

/-- Fill the window and take one result, until no batch is left. -/
def drain (s : Scheduling) (work : α → Except Fault β) (fault : Option Fault) :
    Nat → Nat → List α → List α → Feed β
  | 0, _, _, _ => .empty
  | fuel + 1, turn, inFlight, unread =>
    match s.fill inFlight unread fault with
    | .error fault => .failed fault
    | .ok (inFlight, unread) =>
      match inFlight[s.choice turn inFlight.length]? with
      | none => .empty
      | some batch =>
        match work batch with
        | .error stop => .failed stop
        | .ok result =>
          .cons result
            (drain s work fault fuel (turn + 1)
              (inFlight.eraseIdx (s.choice turn inFlight.length)) unread)

/-- The results of work on batches. -/
def run (s : Scheduling) (work : α → Except Fault β) (batches : Feed α) : Feed β :=
  if s.workers == 0 then .failed (.eval s.refusal)
  else if s.workers == 1 then batches.flatMapM fun batch => do .ok [← work batch]
  else s.drain work batches.fault (batches.items.length + 1) 0 [] batches.items

end Scheduling

end TablePipeline
