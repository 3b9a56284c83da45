-- SUMMARY: The error codes the services return, negated.
import Mathlib.Data.Int.Notation

/-!
# Error codes

The values of `errno.h` on the target.
-/

namespace TempoBt.Errno

def enoent : Int := 2
def eio : Int := 5
def eagain : Int := 11
def enomem : Int := 12
def eacces : Int := 13
def eexist : Int := 17
def enodev : Int := 19
def eisdir : Int := 21
def einval : Int := 22
def enospc : Int := 28
def erange : Int := 34
def etimedout : Int := 116
def ealready : Int := 120
def enotconn : Int := 128

end TempoBt.Errno
