namespace TestReactor

/-! A bounded FIFO queue that its writer can end and that can fail. -/

structure BoundedQueue (T : Type) where
  bound : Nat
  content : List T
  ended : Bool
  failed : Bool
  within : content.length ≤ bound

namespace BoundedQueue

inductive Command (T : Type) where
  | offer (data : List T)
  | append (data : List T)
  | remove (count : Nat)
  | look (count : Nat)
  | discard (count : Nat)
  | rest
  | refuse
  | setFailed (failed : Bool)
  | setEnded (ended : Bool)

inductive Response (T : Type) where
  | refused
  | took (count : Nat)
  | gave (count : Nat) (data : List T)
  | done
  deriving DecidableEq, Repr

theorem ext_fields {first second : BoundedQueue T} (bound : first.bound = second.bound)
    (content : first.content = second.content) (ended : first.ended = second.ended)
    (failed : first.failed = second.failed) : first = second := by
  cases first
  cases second
  simp_all

section Operations

variable (queue : BoundedQueue T)

def room : Nat := queue.bound - queue.content.length

def writable : Bool :=
  !decide (queue.bound = queue.content.length) && !queue.failed && !queue.ended

def fitting (data : List T) : List T :=
  if queue.writable then data.take queue.room else []

def fits (data : List T) : Bool := queue.writable && decide (data.length ≤ queue.room)

def put (data : List T) : BoundedQueue T where
  bound := queue.bound
  content := queue.content ++ data.take queue.room
  ended := queue.ended
  failed := queue.failed
  within := by
    have within := queue.within
    rw [List.length_append, List.length_take, room]
    omega

def drop (count : Nat) : BoundedQueue T where
  bound := queue.bound
  content := queue.content.drop count
  ended := queue.ended
  failed := queue.failed
  within := by
    have within := queue.within
    rw [List.length_drop]
    omega

def apply : Command T → Response T × BoundedQueue T
  | .offer data => (.took (queue.fitting data).length, queue.put (queue.fitting data))
  | .append data => if queue.fits data then (.done, queue.put data) else (.refused, queue)
  | .remove count =>
      (.gave (min count queue.content.length) (queue.content.take count), queue.drop count)
  | .look count =>
      (.gave (min count queue.content.length) (queue.content.take count), queue)
  | .discard count => (.done, queue.drop count)
  | .rest => (.done, queue)
  | .refuse => (.refused, queue)
  | .setFailed failed =>
      (.done, { queue.drop (if failed then queue.content.length else 0) with failed })
  | .setEnded ended => (.done, { queue with ended })

def accepted : Command T → List T
  | .offer data => queue.fitting data
  | .append data => if queue.fits data then data else []
  | _ => []

def removed : Command T → List T
  | .remove count | .discard count => queue.content.take count
  | .setFailed failed => if failed then queue.content else []
  | _ => []

end Operations

/-! Runs of commands and what they moved. -/

def perform (queue : BoundedQueue T) : List (Command T) → BoundedQueue T
  | [] => queue
  | command :: rest => perform (queue.apply command).2 rest

/-- What `part` says of each command of a run, one after the other. -/
def trace (part : BoundedQueue T → Command T → List T) (queue : BoundedQueue T) :
    List (Command T) → List T
  | [] => []
  | command :: rest => part queue command ++ trace part (queue.apply command).2 rest

theorem perform_append (queue : BoundedQueue T) (first second : List (Command T)) :
    queue.perform (first ++ second) = (queue.perform first).perform second := by
  induction first generalizing queue with
  | nil => rfl
  | cons command rest ih => exact ih _

theorem content_put_of_le {queue : BoundedQueue T} {data : List T}
    (enough : data.length ≤ queue.room) :
    (queue.put data).content = queue.content ++ data := by
  show queue.content ++ data.take queue.room = queue.content ++ data
  rw [List.take_of_length_le enough]

theorem length_fitting_le (queue : BoundedQueue T) (data : List T) :
    (queue.fitting data).length ≤ queue.room := by
  unfold fitting
  split
  · rw [List.length_take]
    omega
  · exact Nat.zero_le _

/-- One command: what was there and what came in is what went out and what is
there. -/
theorem conserves (queue : BoundedQueue T) (command : Command T) :
    queue.content ++ queue.accepted command =
      queue.removed command ++ (queue.apply command).2.content := by
  cases command with
  | offer data => exact (content_put_of_le (queue.length_fitting_le data)).symm
  | append data =>
      simp only [accepted, removed, apply]
      cases fits : queue.fits data with
      | true =>
          have enough : data.length ≤ queue.room := by
            simp only [BoundedQueue.fits, Bool.and_eq_true, decide_eq_true_eq] at fits
            exact fits.2
          exact (content_put_of_le enough).symm
      | false => simp
  | remove count => simp [accepted, removed, apply, drop]
  | discard count => simp [accepted, removed, apply, drop]
  | setFailed failed => cases failed <;> simp [accepted, removed, apply, drop]
  | look | rest | refuse | setEnded => simp [accepted, removed, apply]

/-- A whole run loses, duplicates and reorders nothing. -/
theorem conserves_run (queue : BoundedQueue T) (commands : List (Command T)) :
    queue.content ++ trace accepted queue commands =
      trace removed queue commands ++ (queue.perform commands).content := by
  induction commands generalizing queue with
  | nil => simp [trace, perform]
  | cons command rest ih =>
      calc queue.content ++ (queue.accepted command ++ trace accepted _ rest)
          = queue.removed command ++
              ((queue.apply command).2.content ++ trace accepted _ rest) := by
            rw [← List.append_assoc, conserves, List.append_assoc]
        _ = queue.removed command ++ (trace removed _ rest ++
              ((queue.apply command).2.perform rest).content) := by rw [ih]
        _ = _ := by rw [← List.append_assoc]; rfl

/-! A queue whose bound can be changed. -/

/-- A command, or a new bound, with the content kept or dropped. -/
inductive Change (T : Type) where
  | command (command : Command T)
  | rebound (bound : Nat) (keeps : Bool)

section Changes

variable (queue : BoundedQueue T)

def crowded (bound : Nat) (keeps : Bool) : Bool :=
  keeps && decide (bound < queue.content.length)

def rebounded (bound : Nat) (keeps : Bool) : BoundedQueue T where
  bound := bound
  content := if keeps then queue.content.take bound else []
  ended := queue.ended
  failed := queue.failed
  within := by
    cases keeps with
    | true => exact List.length_take_le bound queue.content
    | false => exact Nat.zero_le bound

def change : Change T → Response T × BoundedQueue T
  | .command command => queue.apply command
  | .rebound bound keeps =>
      if queue.crowded bound keeps then (.refused, queue)
      else (.done, queue.rebounded bound keeps)

def step (change : Change T) : Option (BoundedQueue T) := some (queue.change change).2

def enters : Change T → List T
  | .command command => queue.accepted command
  | .rebound _ _ => []

def leaves : Change T → List T
  | .command command => queue.removed command
  | .rebound _ keeps => if keeps then [] else queue.content

end Changes

theorem conserves_change (queue : BoundedQueue T) (change : Change T) :
    queue.content ++ queue.enters change =
      queue.leaves change ++ (queue.change change).2.content := by
  cases change with
  | command command => exact queue.conserves command
  | rebound bound keeps =>
      cases keeps with
      | false => simp [enters, leaves, BoundedQueue.change, crowded, rebounded]
      | true =>
          simp only [enters, leaves, BoundedQueue.change, crowded, Bool.true_and,
            decide_eq_true_eq, List.append_nil, if_true, List.nil_append]
          split
          · rfl
          · rename_i fits
            exact (List.take_of_length_le (Nat.le_of_not_lt fits)).symm

theorem balances (queue : BoundedQueue T) (change : Change T) (next : BoundedQueue T)
    (stepped : queue.step change = some next) :
    queue.content ++ queue.enters change = queue.leaves change ++ next.content := by
  cases stepped
  exact queue.conserves_change change

end BoundedQueue

end TestReactor
