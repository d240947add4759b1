import TtDal.Dev.Session

/-!
# Power state

The single function of `dev/power.c`.
-/

namespace TtDal.Dev

open Effect Platform

/-- `TT_POWER_VALIDITY` -/
def ttPowerValidity (flagsCount settingsCount : UInt8) : UInt8 :=
  (flagsCount &&& (15 : UInt8)) ||| ((settingsCount &&& (15 : UInt8)) <<< (4 : UInt8))

def powerState (flags : UInt16) : PowerState where
  argsz := 40
  flags := 0
  reserved0 := 0
  validity := ttPowerValidity 4 0
  powerFlags := flags
  powerSettings := Vector.replicate 14 0

/-- `tt_power_flag_t` -/
inductive PowerFlag where
  | MAX_AI_CLK
  | MRISC_PHY_WAKEUP
  | TENSIX_ENABLE
  | L2CPU_ENABLE
  deriving DecidableEq, Repr

def PowerFlag.index : PowerFlag → ℕ
  | .MAX_AI_CLK => 0
  | .MRISC_PHY_WAKEUP => 1
  | .TENSIX_ENABLE => 2
  | .L2CPU_ENABLE => 3

/-- The value of the flag in C. -/
def PowerFlag.mask (flag : PowerFlag) : UInt16 :=
  1 <<< UInt16.ofNat flag.index

/-- The flag is set in a bitmask. -/
def PowerFlag.In (flag : PowerFlag) (flags : UInt16) : Prop :=
  flags &&& flag.mask ≠ 0

instance (flag : PowerFlag) (flags : UInt16) : Decidable (flag.In flags) :=
  inferInstanceAs (Decidable (_ ≠ _))

def ttPower (sess : Option Session) (flags : UInt16) : C Status := do
  match sess with
  | some sess =>
    if sess.fd < 0 then
      ttFail .ENOTCONN
    else
      match ← sys (.setPowerState sess.fd (powerState flags)) with
      | .fail err => ttFailIo err
      | .ok _ _ => return .TT_OK ()
  | none => ttFail .EINVAL

end TtDal.Dev
