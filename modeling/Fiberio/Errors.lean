import Mathlib.Tactic.Common

/-!
Owns the error vocabulary of the library: the libuv status codes that the
code names, the exception classes of `include/fiberio/exceptions.hpp` and
`src/utils.hpp`, and `check_uv_status` of `src/utils.cpp`.

Does not own the texts behind `uv_err_name` and `uv_strerror`; a message
built from them is kept as its status.
-/

namespace Fiberio

/-! ## libuv status codes -/

def uvEbadf : Int := -9
def uvEagain : Int := -11
def uvEinval : Int := -22
def uvEmfile : Int := -24
def uvEconnreset : Int := -104
def uvEnobufs : Int := -105
def uvEnotconn : Int := -107
def uvEcanceled : Int := -125
def uvEaiAddrfamily : Int := -3000
def uvEof : Int := -4095

/-! ## Exceptions -/

/-- The text of an exception. `uv status` stands for
`uv_err_name(status) + ": " + uv_strerror(status)`. -/
inductive What where
  | text (message : String)
  | uv (status : Int)
deriving DecidableEq, Repr

inductive Exc where
  | ioError (what : What)
  | socketClosedError
  | addressFamilyNotSupportedError
  | uvError (status : Int)
  | runtimeError (message : String)
  | lengthError
  | badAlloc
deriving DecidableEq, Repr

namespace Exc

/-- `std::exception::what`. -/
def what : Exc → What
  | ioError text => text
  | socketClosedError => .text "stream closed"
  | addressFamilyNotSupportedError => .text "address family not supported"
  | uvError status => .uv status
  | runtimeError message => .text message
  | lengthError => .text "length_error"
  | badAlloc => .text "std::bad_alloc"

/-- `fiberio::io_error` and the classes derived from it. `uv_error` derives
from `std::runtime_error` directly. -/
def isIoError : Exc → Bool
  | ioError _ | socketClosedError | addressFamilyNotSupportedError => true
  | uvError _ | runtimeError _ | lengthError | badAlloc => false

/-- The exceptions that leave the constructor of a standard container. -/
def isContainerError : Exc → Bool
  | lengthError | badAlloc => true
  | ioError _ | socketClosedError | addressFamilyNotSupportedError
  | uvError _ | runtimeError _ => false

/-- The handler `catch (uv_error& e) { throw io_error{ e.what() }; }`. -/
def translate : Exc → Exc
  | uvError status => ioError (uvError status).what
  | exc => exc

end Exc

/-! ## `check_uv_status` -/

/-- Throws on a negative status, and picks the class by the code. -/
def checkUvStatus (status : Int) : Except Exc Unit :=
  if status < 0 then
    if status = uvEnotconn ∨ status = uvEbadf then
      .error .socketClosedError
    else if status = uvEaiAddrfamily then
      .error .addressFamilyNotSupportedError
    else
      .error (.uvError status)
  else
    .ok ()

/-- The two codes that stand for a connection that is already gone. -/
def Disconnected (status : Int) : Prop := status = uvEnotconn ∨ status = uvEbadf

instance : DecidablePred Disconnected := fun status =>
  inferInstanceAs (Decidable (status = uvEnotconn ∨ status = uvEbadf))

theorem Disconnected.negative {status : Int} (gone : Disconnected status) : ¬ 0 ≤ status := by
  unfold Disconnected uvEnotconn uvEbadf at gone
  omega

theorem checkUvStatus_ok {status : Int} (nonnegative : 0 ≤ status) :
    checkUvStatus status = .ok () := by
  unfold checkUvStatus
  rw [if_neg (by omega)]

theorem checkUvStatus_eq_ok_iff {status : Int} {value : Unit} :
    checkUvStatus status = .ok value ↔ 0 ≤ status := by
  constructor
  · intro passed
    by_contra negative
    unfold checkUvStatus at passed
    rw [if_pos (by omega)] at passed
    split_ifs at passed
  · exact checkUvStatus_ok

/-- Only a socket that is gone makes `check_uv_status` throw
`socket_closed_error`. -/
theorem checkUvStatus_socketClosed_iff {status : Int} :
    checkUvStatus status = .error .socketClosedError ↔ Disconnected status := by
  unfold checkUvStatus Disconnected uvEnotconn uvEbadf
  constructor
  · intro thrown
    split_ifs at thrown with negative gone <;> simp_all
  · intro gone
    rw [if_pos (by omega), if_pos gone]

theorem checkUvStatus_enotconn : checkUvStatus uvEnotconn = .error .socketClosedError :=
  checkUvStatus_socketClosed_iff.mpr (.inl rfl)

/-! ## Public and private exceptions -/

/-- The statuses that `check_uv_status` answers with an exception of
`include/fiberio/exceptions.hpp`, or with none. -/
def PublicStatus (status : Int) : Prop :=
  0 ≤ status ∨ Disconnected status ∨ status = uvEaiAddrfamily

instance : DecidablePred PublicStatus := fun status =>
  inferInstanceAs (Decidable (0 ≤ status ∨ Disconnected status ∨ status = uvEaiAddrfamily))

theorem checkUvStatus_isIoError_iff {status : Int} {exc : Exc}
    (failed : checkUvStatus status = .error exc) :
    exc.isIoError = true ↔ PublicStatus status := by
  unfold checkUvStatus at failed
  unfold PublicStatus Disconnected
  split_ifs at failed with negative gone family
  · cases failed
    exact iff_of_true rfl (.inr (.inl gone))
  · cases failed
    exact iff_of_true rfl (.inr (.inr family))
  · cases failed
    refine iff_of_false (by simp [Exc.isIoError]) ?_
    intro isPublic
    rcases isPublic with nonnegative | disconnected | isFamily
    · omega
    · exact gone disconnected
    · exact family isFamily

/-- The handler in `connect` leaves public exceptions only. -/
theorem checkUvStatus_translate {status : Int} {exc : Exc}
    (failed : checkUvStatus status = .error exc) : exc.translate.isIoError = true := by
  unfold checkUvStatus at failed
  split_ifs at failed <;> cases failed <;> rfl

end Fiberio
