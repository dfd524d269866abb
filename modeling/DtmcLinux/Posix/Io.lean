import Mathlib.Data.List.Basic
import Mathlib.Data.Int.Notation

set_option autoImplicit false

/-! # Reading from a descriptor

Error numbers, `poll`, and the results of `read` and `recv`. -/

namespace Posix

/-- `EINTR` -/
def Errno.intr : ℤ := 4
/-- `EIO` -/
def Errno.io : ℤ := 5
/-- `EBADF` -/
def Errno.badf : ℤ := 9
/-- `ENODEV` -/
def Errno.nodev : ℤ := 19

/-- The bits of `revents`. -/
def POLLIN : ℕ := 0x1
def POLLERR : ℕ := 0x8
def POLLHUP : ℕ := 0x10
def POLLNVAL : ℕ := 0x20

/-- What `poll` returns for one descriptor. -/
inductive PollResult where
  | failed (errno : ℤ) (strerror : String)
  | timeout
  | revents (bits : ℕ)

/-- `poll` ignores a negative descriptor: the call can only fail or time out. -/
def PollResult.possible (fd : ℤ) : PollResult → Bool
  | .revents _ => 0 ≤ fd
  | _ => true

/-- What `read` or `recv` returns; no bytes are the return value 0. -/
inductive ReadResult where
  | failed (errno : ℤ) (strerror : String)
  | bytes (bs : List UInt8)

/-- At most `size` bytes are read, and from a negative descriptor none: the call fails with
    `EBADF`. -/
def ReadResult.possible (fd : ℤ) (size : ℕ) : ReadResult → Bool
  | .failed errno _ => 0 ≤ fd || errno == Errno.badf
  | .bytes bs => 0 ≤ fd && bs.length ≤ size

end Posix
