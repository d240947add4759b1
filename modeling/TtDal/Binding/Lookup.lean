import TtDal.Binding.Address
import TtDal.Binding.Perform

/-!
# Lookups of the bindings

Rust looks a device up by an `Address`, whose text it passes on, and Python by any text. Both pass
a C string, which has no nul character in it.
-/

namespace TtDal.Binding

open Effect Platform Dev

/-- `CString::new` -/
def cString (text : List Char) : Option String :=
  if '\x00' ∈ text then none else some (String.ofList text)

/-- The call of `tt_dev_from_bdf` both bindings make. The library writes the device where it
succeeds, so what it is passed starts with any value. -/
def lookUp {ε : Type} (fails : Errno → ε) (rounds : ℕ) (bdf : String) : C (Except ε Device) := do
  match ← ttDevFromBdf rounds (some bdf) (some { id := 0 }) with
  | (.TT_OK _, some raw) => return .ok raw
  | _ => return .error (fails (← getErrno))

-- Unification must not parse the text to compare programs that look a device up.
attribute [irreducible] lookUp

namespace Rust

/-- What a lookup fails with. -/
inductive LookupError where
  | InvalidInput
  | os (errno : Errno)
  deriving DecidableEq, Repr

/-- `TryFrom<pci::Address>` of `Device` -/
def deviceAt (rounds : ℕ) (addr : Address) : C (Except LookupError Device) := do
  match cString addr.display with
  | none => return .error .InvalidInput
  | some bdf => lookUp .os rounds bdf

end Rust

namespace Python

/-- `Device.from_bdf` -/
def fromBdf (rounds : ℕ) (addr : List Char) : C (Except PyErr Device) := do
  match cString addr with
  | none => return .error (.TTError .EINVAL)
  | some addr => lookUp .TTError rounds addr

end Python

/-- No text of an address is refused. -/
theorem cString_display (addr : Rust.Address) :
    cString addr.display = some (String.ofList addr.display) := by
  have hnul (width value : ℕ) : '\x00' ∉ hex width value := fun hmem ↦ by
    have hdigit := (plain_hex width value).digits _ hmem
    revert hdigit
    decide
  have hfree : '\x00' ∉ addr.display := by
    simp [Rust.Address.display, formatBdf, hnul]
  exact if_neg hfree

end TtDal.Binding
