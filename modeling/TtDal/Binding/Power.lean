import TtDal.Dev.Power
import TtDal.Binding.Perform
import Mathlib.Data.Set.Insert

/-!
# Power flags of the bindings

Both bindings combine flags by their bits and pass the sum to `tt_power`. Rust collects a `FlagSet`
from any number of flags. Python combines two flags by `|`.
-/

namespace TtDal.Binding

open Effect Platform Dev

/-- The features set in a bitmask. -/
def featuresOf (bits : UInt16) : Set PowerFlag := {flag | flag.In bits}

theorem or_and_distrib (bits bits' mask : UInt16) :
    (bits ||| bits') &&& mask = (bits &&& mask) ||| (bits' &&& mask) := by
  apply UInt16.toBitVec_inj.mp
  ext i hi
  simp [Bool.and_or_distrib_right]

theorem featuresOf_or (bits bits' : UInt16) :
    featuresOf (bits ||| bits') = featuresOf bits ∪ featuresOf bits' := by
  ext flag
  simp only [featuresOf, PowerFlag.In, Set.mem_ofPred_eq, Set.mem_union, ne_eq,
    or_and_distrib, UInt16.or_eq_zero_iff, not_and_or]

theorem featuresOf_mask (flag : PowerFlag) : featuresOf flag.mask = {flag} := by
  ext other
  cases flag <;> cases other <;> simp [featuresOf] <;> decide

theorem featuresOf_zero : featuresOf 0 = ∅ := by
  ext flag
  simp [featuresOf, PowerFlag.In]

/-! ## Rust -/

namespace Rust

/-- `Flag` -/
inductive Flag where
  | MaxAiClk
  | MriscPhyWakeup
  | TensixEnable
  | L2CpuEnable
  deriving DecidableEq, Repr

/-- The feature a flag stands for. -/
def Flag.feature : Flag → PowerFlag
  | .MaxAiClk => .MAX_AI_CLK
  | .MriscPhyWakeup => .MRISC_PHY_WAKEUP
  | .TensixEnable => .TENSIX_ENABLE
  | .L2CpuEnable => .L2CPU_ENABLE

/-- `flag as u16` -/
def Flag.bits (flag : Flag) : UInt16 := flag.feature.mask

structure FlagSet where
  bits : UInt16
  deriving DecidableEq, Repr

namespace FlagSet

def HI : FlagSet := ⟨~~~0⟩

def LO : FlagSet := ⟨0⟩

/-- `From<Flag>` -/
def ofFlag (flag : Flag) : FlagSet := ⟨flag.bits⟩

/-- `FromIterator<Flag>` -/
def fromIter (flags : List Flag) : FlagSet :=
  ⟨flags.foldl (fun acc flag ↦ acc ||| flag.bits) 0⟩

/-- `From<[Flag; N]>` -/
def ofArray {n : ℕ} (flags : Vector Flag n) : FlagSet := fromIter flags.toList

/-- The features of the set. -/
def features (flags : FlagSet) : Set PowerFlag := featuresOf flags.bits

theorem features_foldl (flags : List Flag) (acc : UInt16) :
    featuresOf (flags.foldl (fun acc flag ↦ acc ||| flag.bits) acc) =
      featuresOf acc ∪ {feature | ∃ flag ∈ flags, flag.feature = feature} := by
  induction flags generalizing acc with
  | nil => simp
  | cons flag flags ih =>
    have hsplit : {feature | ∃ other ∈ flag :: flags, other.feature = feature} =
        {flag.feature} ∪ {feature | ∃ other ∈ flags, other.feature = feature} := by
      ext feature
      simp [eq_comm]
    rw [List.foldl_cons, ih, featuresOf_or, Flag.bits, featuresOf_mask, hsplit, Set.union_assoc]

/-- Collecting flags forgets their order and how often each occurs. -/
theorem features_fromIter (flags : List Flag) :
    (fromIter flags).features = {feature | ∃ flag ∈ flags, flag.feature = feature} := by
  rw [features, fromIter, features_foldl, featuresOf_zero, Set.empty_union]

end FlagSet

/-- `Session::power` -/
def power (persist : Bool) (flags : FlagSet) (sess : Session) :
    C (Except Errno Unit × Session) :=
  perform persist (fun sess ↦ check (ttPower (some sess) flags.bits)) reopen sess

end Rust

/-! ## Python -/

namespace Python

/-- `Flag` -/
structure Flag where
  bits : UInt16
  deriving DecidableEq, Repr

namespace Flag

def MaxAiClk : Flag := ⟨PowerFlag.MAX_AI_CLK.mask⟩

def MriscPhyWakeup : Flag := ⟨PowerFlag.MRISC_PHY_WAKEUP.mask⟩

def TensixEnable : Flag := ⟨PowerFlag.TENSIX_ENABLE.mask⟩

def L2CpuEnable : Flag := ⟨PowerFlag.L2CPU_ENABLE.mask⟩

def HI : Flag := ⟨~~~0⟩

def LO : Flag := ⟨0⟩

/-- `__or__` -/
def or (flag other : Flag) : Flag := ⟨flag.bits ||| other.bits⟩

/-- `__ror__` -/
def ror (flag other : Flag) : Flag := ⟨flag.bits ||| other.bits⟩

def features (flag : Flag) : Set PowerFlag := featuresOf flag.bits

theorem features_or (flag other : Flag) :
    (flag.or other).features = flag.features ∪ other.features :=
  featuresOf_or flag.bits other.bits

end Flag

/-- `Session.power` -/
def power (persist : Bool) (flags : Flag) (sess : Session) :
    C (Except PyErr Unit × Session) :=
  perform persist (fun sess ↦ check (ttPower (some sess) flags.bits)) lost reopen sess

end Python

/-- Both languages make the same requests. -/
theorem power_agree (persist : Bool) (bits : UInt16) (sess : Session) :
    Python.power persist ⟨bits⟩ sess = Prod.map raise id <$> Rust.power persist ⟨bits⟩ sess :=
  perform_library_agree persist (fun sess ↦ ttPower (some sess) bits) sess

end TtDal.Binding
