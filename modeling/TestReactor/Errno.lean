namespace TestReactor

/-! The error numbers that the code looks at.  What the kernel answers to one attempt
of a system call after another is a list, each an errno or a result. -/

namespace Errno

def ENOENT : Nat := 2
def EINTR : Nat := 4
def EBADF : Nat := 9
def EAGAIN : Nat := 11
def EEXIST : Nat := 17
def ETIMEDOUT : Nat := 110

/-- A system call that is tried again after EINTR.  There is no result while the
kernel has not given an answer that ends the loop. -/
def retried : List (Except Nat α) → Option (Except Nat α)
  | [] => none
  | .error errno :: later => if errno = EINTR then retried later else some (.error errno)
  | .ok value :: _ => some (.ok value)

end Errno

end TestReactor
