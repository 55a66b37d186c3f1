import TablePipeline.Fault.Basic

/-!
Feeds: what a lazy producer hands out, item by item, until it ends or fails. A consumer that stops
early never meets the failure.
-/
namespace TablePipeline

structure Feed (α : Type) where
  items : List α
  fault : Option Fault := none

namespace Feed

variable {α β : Type}

def empty : Feed α := ⟨[], none⟩

def failed (fault : Fault) : Feed α := ⟨[], some fault⟩

/-- One item before the others. -/
def cons (a : α) (feed : Feed α) : Feed α := { feed with items := a :: feed.items }

/-- At most `n` items; the failure remains only if it comes before the `n`-th item. -/
def take (n : Nat) (feed : Feed α) : Feed α :=
  if n ≤ feed.items.length then ⟨feed.items.take n, none⟩ else feed

/-- Skip `n` items, or all of them and meet the failure. -/
def drop (n : Nat) (feed : Feed α) : Feed α := { feed with items := feed.items.drop n }

/-- All items, or the failure that comes after them. -/
def toExcept (feed : Feed α) : Except Fault (List α) :=
  match feed.fault with
  | some fault => .error fault
  | none => .ok feed.items

/-- Continue with a second feed unless the first one fails. -/
def append (first second : Feed α) : Feed α :=
  match first.fault with
  | some _ => first
  | none => ⟨first.items ++ second.items, second.fault⟩

def map (f : α → β) (feed : Feed α) : Feed β := ⟨feed.items.map f, feed.fault⟩

/-- Run a fallible step on each item; its results are handed out until one step fails. -/
def traverse (f : α → Except Fault (List β)) : List α → Option Fault → Feed β
  | [], fault => ⟨[], fault⟩
  | a :: rest, fault =>
    match f a with
    | .error stop => .failed stop
    | .ok bs =>
      let more := traverse f rest fault
      ⟨bs ++ more.items, more.fault⟩

/-- Replace each item by any number of others, until a step fails. -/
def flatMapM (f : α → Except Fault (List β)) (feed : Feed α) : Feed β :=
  traverse f feed.items feed.fault

/-- Cut items into pieces of `size` items, the last of which may be shorter. -/
def pieces (size : Nat) (items : List α) : List (List α) :=
  if items.isEmpty || size == 0 then []
  else items.take size :: pieces size (items.drop size)
  termination_by items.length
  decreasing_by
    rename_i h
    simp only [Bool.or_eq_true, List.isEmpty_iff, beq_iff_eq, not_or] at h
    have := List.length_pos_iff.2 h.1
    simp only [List.length_drop]
    omega

/-- The items in batches of `size`. The last batch may be shorter, but of a feed that fails the
items right before the failure are in no batch unless they fill one. -/
def batches (size : Nat) (feed : Feed α) : Feed (List α) :=
  let all := pieces size feed.items
  match feed.fault with
  | none => ⟨all, none⟩
  | some fault => ⟨all.filter fun batch => batch.length == size, some fault⟩

end Feed

end TablePipeline
