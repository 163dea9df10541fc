import TestReactor.Errno

namespace TestReactor

/-! An epoll instance: its interest list, what `epoll_ctl` does to it, and what becomes of
it when a descriptor is closed.  What the kernel refuses for reasons of its own is a
parameter. -/

inductive CtlOp where
  | add
  | mod
  | del
  deriving DecidableEq, Repr

namespace Epoll

def EPOLLIN : BitVec 32 := 0x1#32
def EPOLLOUT : BitVec 32 := 0x4#32
def EPOLLERR : BitVec 32 := 0x8#32
def EPOLLHUP : BitVec 32 := 0x10#32

structure Event (Data : Type) where
  events : BitVec 32
  data : Data
  deriving DecidableEq, Repr

end Epoll

/-- `refusal n op present` is the errno of the `n`-th `epoll_ctl` call, if it fails:
its operation is `op`, and `present` tells whether its descriptor is listed.  `closed` are
the descriptors that have been closed and not been listed again since. -/
structure Epoll (Data : Type) where
  interest : Int → Option (Epoll.Event Data)
  closed : Int → Bool
  calls : Nat
  refusal : Nat → CtlOp → Bool → Option Nat

namespace Epoll

def empty (refusal : Nat → CtlOp → Bool → Option Nat) : Epoll Data where
  interest := fun _ => none
  closed := fun _ => false
  calls := 0
  refusal := refusal

/-- The kernel that refuses only what the interest list makes impossible. -/
def strict (_ : Nat) : CtlOp → Bool → Option Nat
  | .add, true => some Errno.EEXIST
  | .mod, false => some Errno.ENOENT
  | .del, false => some Errno.ENOENT
  | _, _ => none

/-- The kernel whose calls all succeed, but for the addition of what is listed. -/
def obliging (_ : Nat) : CtlOp → Bool → Option Nat
  | .add, true => some Errno.EEXIST
  | _, _ => none

/-- A kernel that succeeds only in what the interest list makes possible, and may fail in
anything. -/
structure Lawful (refusal : Nat → CtlOp → Bool → Option Nat) : Prop where
  add : ∀ n, refusal n .add true ≠ none
  mod : ∀ n, refusal n .mod false ≠ none
  del : ∀ n, refusal n .del false ≠ none

theorem lawful_strict : Lawful strict := by
  constructor <;> intro _ <;> exact Option.some_ne_none _

/-- What is listed is open. -/
def set (epoll : Epoll Data) (fd : Int) (entry : Option (Event Data)) : Epoll Data :=
  { epoll with
    interest := fun other => if other = fd then entry else epoll.interest other
    closed := fun other => if other = fd ∧ entry.isSome then false else epoll.closed other }

def recreated (epoll : Epoll Data) : Epoll Data := { epoll with interest := fun _ => none }

/-- Why the next `epoll_ctl` call fails, if it does.  What has been closed can be added, as
its number may stand for a new connection by then, but neither modified nor deleted. -/
def refused (epoll : Epoll Data) (op : CtlOp) (fd : Int) : Option Nat :=
  let errno := epoll.refusal epoll.calls op (epoll.interest fd).isSome
  if epoll.closed fd = true ∧ op ≠ .add then some (errno.getD Errno.EBADF) else errno

theorem refused_add (epoll : Epoll Data) (fd : Int) :
    epoll.refused .add fd = epoll.refusal epoll.calls .add (epoll.interest fd).isSome :=
  if_neg fun both => both.2 rfl

theorem refused_of_open {epoll : Epoll Data} {fd : Int} (unclosed : epoll.closed fd = false)
    (op : CtlOp) :
    epoll.refused op fd = epoll.refusal epoll.calls op (epoll.interest fd).isSome :=
  if_neg fun both => Bool.noConfusion (unclosed.symm.trans both.1)

theorem Lawful.listed {epoll : Epoll Data} (lawful : Lawful epoll.refusal) {op : CtlOp} {fd : Int}
    (other : op ≠ .add) (accepted : epoll.refused op fd = none) :
    (epoll.interest fd).isSome = true := by
  cases unlisted : (epoll.interest fd).isSome with
  | true => rfl
  | false =>
      simp only [refused, unlisted] at accepted
      split at accepted
      · contradiction
      · cases op with
        | add => contradiction
        | mod => exact absurd accepted (lawful.mod _)
        | del => exact absurd accepted (lawful.del _)

def opened (epoll : Epoll Data) (fd : Int) : Epoll Data :=
  { epoll with closed := fun other => if other = fd then false else epoll.closed other }

def close (epoll : Epoll Data) (fd : Int) : Epoll Data :=
  { epoll.set fd none with
    closed := fun other => if other = fd then true else epoll.closed other }

def closeAll (epoll : Epoll Data) (fds : List Int) : Epoll Data := fds.foldl close epoll

/-- The instance after an `epoll_ctl` call. -/
def ctl (epoll : Epoll Data) (op : CtlOp) (fd : Int) (event : Event Data) : Epoll Data :=
  let next := { epoll with calls := epoll.calls + 1 }
  match epoll.refused op fd, op with
  | some _, _ => next
  | none, .del => next.set fd none
  | none, .add => next.set fd (some event)
  | none, .mod => next.set fd (some event)

end Epoll

end TestReactor
