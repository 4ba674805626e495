import Mathlib.Data.Nat.ModEq

/-!
# The board interface (`interface/interface.h`)

The library never touches hardware: it calls functions a board port supplies.
Their results are inputs of the model.
-/

namespace FwCore

/-- `io_status_t`. -/
inductive IoStatus where
  | ok
  | errNull
  | errInvalidPin
  | errNotInit
  | errHwFault
  | errTimeout
deriving DecidableEq, Repr

/-- `IO_PIN_LOW`. -/
def ioPinLow : UInt8 := 0

/-- `IO_PIN_HIGH`. -/
def ioPinHigh : UInt8 := 1

/-- One `IO_read`: its status, and the byte it stored through `out_value`, if it stored one. -/
structure IoRead where
  status : IoStatus
  out : Option UInt8
deriving DecidableEq, Repr

/-- `comm_send`, and `comm_receive` of one byte, with whatever is behind the ports in state `σ`. -/
structure Comm (σ : Type) where
  send : (commId : UInt8) → (buf : List UInt8) → σ → σ
  receive : (commId : UInt8) → σ → UInt8 × σ

end FwCore
