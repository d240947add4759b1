import TtDal.Binding.Lookup
import TtDal.Safety.AddressLookup

/-!
# Looking up a listed device

A device of the directory tells its address when it is opened and asked. The lookups of both
languages print or parse an address, scan the directory again and ask its devices. They find the
first device that tells the address, so a device whose address no other has is found by its own.
-/

namespace TtDal.Safety.DeviceAddresses

open Effect Platform Dev Driver Binding AddressText AddressLookup

open Binding.Rust (Address)

/-- The address in the information of a device. -/
def addressOf (info : DevInfo) : Address where
  domain := info.pciDomain
  bus := UInt8.ofNat (info.busDevFn.toNat / 2 ^ 8 % 2 ^ 8)
  device := UInt8.ofNat (info.busDevFn.toNat / 2 ^ 3 % 2 ^ 5)
  function := UInt8.ofNat (info.busDevFn.toNat % 2 ^ 3)

/-- The device opens, answers and tells the address. -/
def At (known : String → Fate) (addr : Address) (dev : Device) : Bool :=
  (known (devicePath dev)).info.any fun info ↦ addressOf info = addr

/-- The first of the devices a lookup scans that is at the address. -/
def found (known : String → Fate) (scan : Scan) (addr : Address) : Option Device :=
  (scanned scan).find? (At known addr)

/-- A lookup returns, reads only entries that were filled, and gives this device, or `ENODEV`. -/
def Finds {ε : Type} (known : String → Fate) (scan : Scan) (thread : Thread)
    (lookup : C (Except ε Device)) (fails : Errno → ε) (dev : Option Device) : Prop :=
  Procedure.Completes (Listing.contract Listing.Looks (· = scan) fun _ ↦ known) lookup thread
    Listing.initial fun trace res _ _ ↦ Filled trace ∧
      res = dev.elim (.error (fails .ENODEV)) .ok

section Lookups

variable {known : String → Fate} {scan : Scan} {addr : Address} {rounds : ℕ} {thread : Thread}

theorem numbers_addressOf (info : DevInfo) : (addressOf info).numbers = infoNumbers info := by
  have hbus : info.busDevFn.toNat / 2 ^ 8 % 2 ^ 8 < 2 ^ 8 := Nat.mod_lt _ (by decide)
  have hdevice : info.busDevFn.toNat / 2 ^ 3 % 2 ^ 5 < 2 ^ 8 :=
    Nat.lt_trans (Nat.mod_lt _ (by decide)) (by decide)
  have hfunction : info.busDevFn.toNat % 2 ^ 3 < 2 ^ 8 :=
    Nat.lt_trans (Nat.mod_lt _ (by decide)) (by decide)
  simp only [Address.numbers, addressOf, infoNumbers, UInt8.toNat_ofNat_of_lt' hbus,
    UInt8.toNat_ofNat_of_lt' hdevice, UInt8.toNat_ofNat_of_lt' hfunction]

theorem at_iff {dev : Device} : At known addr dev = true ↔
    ∃ info, (known (devicePath dev)).info = some info ∧ infoNumbers info = addr.numbers := by
  simp only [At, Option.any_eq_true, decide_eq_true_eq, ← numbers_addressOf, numbers_inj]

theorem matches_iff_at {index : ℕ} {dev : Device} :
    Matches (fun _ ↦ known) addr.numbers (scanned scan) index dev ↔
      (scanned scan)[index]? = some dev ∧ At known addr dev = true := by
  rw [Matches, at_iff]

theorem found_eq_some_iff {dev : Device} : found known scan addr = some dev ↔
    ∃ index, Matches (fun _ ↦ known) addr.numbers (scanned scan) index dev ∧
      ∀ i < index, ∀ other, ¬Matches (fun _ ↦ known) addr.numbers (scanned scan) i other := by
  simp only [matches_iff_at, found, List.find?_eq_some_iff_getElem]
  constructor
  · rintro ⟨hat, index, hlt, hdev, hfirst⟩
    refine ⟨index, ⟨List.getElem?_eq_some_iff.mpr ⟨hlt, hdev⟩, hat⟩, fun i hi other hother ↦ ?_⟩
    obtain ⟨hlt', rfl⟩ := List.getElem?_eq_some_iff.mp hother.1
    have hnot := hfirst i hi
    simp [hother.2] at hnot
  · rintro ⟨index, ⟨hdev, hat⟩, hfirst⟩
    obtain ⟨hlt, hdev⟩ := List.getElem?_eq_some_iff.mp hdev
    refine ⟨hat, index, hlt, hdev, fun i hi ↦ ?_⟩
    by_contra hnot
    have hat' : At known addr (scanned scan)[i] = true := by simpa using hnot
    exact hfirst i hi _ ⟨List.getElem?_eq_getElem (by omega), hat'⟩

theorem found_eq_none_iff : found known scan addr = none ↔
    ∀ index dev, ¬Matches (fun _ ↦ known) addr.numbers (scanned scan) index dev := by
  simp only [matches_iff_at, found, List.find?_eq_none]
  constructor
  · rintro hnone index dev ⟨hdev, hat⟩
    exact hnone dev (List.mem_of_getElem? hdev) hat
  · intro hnone dev hdev hat
    obtain ⟨index, hindex⟩ := List.mem_iff_getElem?.mp hdev
    exact hnone index dev ⟨hindex, hat⟩

/-- The lookup of a text that is read as the address. -/
theorem wp_lookUp {ε : Type} {fails : Errno → ε} {text : List Char}
    (hparse : parseBdf text = some addr.numbers) (hrounds : scan.entries.length < rounds)
    (hcovered : scan.devices.length ≤ 64 ∨ (found known scan addr).isSome) :
    Procedure.wp (Listing.contract Listing.Looks (· = scan) fun _ ↦ known)
      (lookUp fails rounds (String.ofList text)) (fun trace res _ _ ↦ Filled trace ∧
        res = (found known scan addr).elim (.error (fails .ENODEV)) .ok) thread
      Listing.initial := by
  have hfilled : Covered (fun _ ↦ known) addr.numbers (scanned scan) scan.devices.length := by
    refine covered_scanned.mpr (hcovered.imp_right fun hsome ↦ ?_)
    obtain ⟨dev, hdev⟩ := Option.isSome_iff_exists.mp hsome
    obtain ⟨index, hmatch, -⟩ := found_eq_some_iff.mp hdev
    exact ⟨index, dev, hmatch⟩
  unfold lookUp
  refine Procedure.wp_call (wp_ttDevFromBdf hparse (numbers_fits addr) hrounds) ?_
  intro trace out thread' _ hout
  obtain ⟨res, hsound, rfl⟩ := hout
  have htrace : Filled (trace ++ []) := by
    rw [List.append_nil]
    exact hsound.1.mpr hfilled
  rcases hsound.2 hfilled with ⟨index, dev, hmatch, hfirst, rfl⟩ | ⟨hnone, rfl, herrno⟩
  · have hdev := found_eq_some_iff.mpr ⟨index, hmatch, hfirst⟩
    rw [hdev]
    exact ⟨htrace, rfl⟩
  · rw [found_eq_none_iff.mpr hnone]
    exact ⟨htrace, congrArg (fun err ↦ Except.error (fails err)) herrno⟩

/-- A device whose address no other device tells. -/
theorem found_of_sole {dev : Device} {info : DevInfo} (hdev : dev ∈ scanned scan)
    (hinfo : (known (devicePath dev)).info = some info)
    (hsole : ∀ other ∈ scanned scan, At known (addressOf info) other = true → other = dev) :
    found known scan (addressOf info) = some dev := by
  have hat : At known (addressOf info) dev = true :=
    at_iff.mpr ⟨info, hinfo, (numbers_addressOf info).symm⟩
  cases hfound : found known scan (addressOf info) with
  | none => exact absurd hat (List.find?_eq_none.mp hfound dev hdev)
  | some other =>
    rw [hsole other (List.mem_of_find?_eq_some hfound) (List.find?_some hfound)]

/-- The lookups of both languages find the first device that tells the address, and so a device is
found by its own address where no other has it. -/
theorem lookups_find (hrounds : scan.entries.length < rounds) (thread : Thread) :
    (∀ addr, scan.devices.length ≤ 64 ∨ (found known scan addr).isSome →
      Finds known scan thread (Rust.deviceAt rounds addr) .os (found known scan addr) ∧
      ∀ text, parseBdf text = some addr.numbers → '\x00' ∉ text →
        Finds known scan thread (Python.fromBdf rounds text) .TTError (found known scan addr)) ∧
    ∀ dev ∈ scanned scan, ∀ info, (known (devicePath dev)).info = some info →
      (∀ other ∈ scanned scan, At known (addressOf info) other = true → other = dev) →
      Finds known scan thread (Rust.deviceAt rounds (addressOf info)) .os (some dev) := by
  have hrust (addr : Address)
      (hcovered : scan.devices.length ≤ 64 ∨ (found known scan addr).isSome) :
      Finds known scan thread (Rust.deviceAt rounds addr) .os (found known scan addr) := by
    have hparse := parseBdf_formatBdf (numbers_fits addr)
    rw [← display_eq] at hparse
    have hlookUp : Finds known scan thread
        (lookUp Rust.LookupError.os rounds (String.ofList addr.display)) .os
        (found known scan addr) := completes_looks (wp_lookUp hparse hrounds hcovered)
    simpa only [Rust.deviceAt, cString_display] using hlookUp
  refine ⟨fun addr hcovered ↦ ⟨hrust addr hcovered, fun text hparse hnul ↦ ?_⟩, ?_⟩
  · have hlookUp : Finds known scan thread
        (lookUp Python.PyErr.TTError rounds (String.ofList text)) .TTError
        (found known scan addr) := completes_looks (wp_lookUp hparse hrounds hcovered)
    simpa only [Python.fromBdf, cString, if_neg hnul] using hlookUp
  · intro dev hdev info hinfo hsole
    have hfound := found_of_sole hdev hinfo hsole
    rw [← hfound]
    exact hrust (addressOf info) (.inr (hfound ▸ rfl))

end Lookups

/-! ## Three devices -/

/-- A device at `"04:00.0"`. -/
def cardFour : DevInfo := { cardThree with busDevFn := 0x400 }

/-- The first device does not open, the second is another card, and the third tells the
address. -/
def threeCards (path : String) : Fate :=
  if path = devicePath { id := 1 } then .answering cardFour
  else if path = devicePath { id := 2 } then .answering cardThree
  else .unopened .ENODEV

theorem threeCards_known : threeCards (devicePath { id := 0 }) = .unopened .ENODEV ∧
    threeCards (devicePath { id := 1 }) = .answering cardFour ∧
    threeCards (devicePath { id := 2 }) = .answering cardThree := by
  simp [threeCards, DeviceNames.devicePath_injective.eq_iff]

def slotThreeAddress : Address := { domain := 0, bus := 3, device := 0, function := 0 }

theorem threeCards_found :
    found threeCards (nodes 3) slotThreeAddress = some { id := 2 } := by
  obtain ⟨hzero, hone, htwo⟩ := threeCards_known
  have hscanned : scanned (nodes 3) = [{ id := 0 }, { id := 1 }, { id := 2 }] := by
    rw [scanned, nodes_devices]
    rfl
  have hfour : addressOf cardFour ≠ slotThreeAddress := by decide
  have hthree : addressOf cardThree = slotThreeAddress := by decide
  simp [found, hscanned, At, hzero, hone, htwo, Fate.info, hfour, hthree]

/-- Both languages pass over the two other devices. -/
theorem card_found :
    Finds threeCards (nodes 3) Thread.initial (Rust.deviceAt 4 slotThreeAddress) .os
      (some { id := 2 }) ∧
    Finds threeCards (nodes 3) Thread.initial (Python.fromBdf 4 slotThree) .TTError
      (some { id := 2 }) := by
  have hrounds : (nodes 3).entries.length < 4 := by
    rw [length_entries_nodes]
    decide
  have hsome : (found threeCards (nodes 3) slotThreeAddress).isSome := by
    rw [threeCards_found]
    rfl
  obtain ⟨hrust, hpython⟩ :=
    (lookups_find hrounds Thread.initial).1 slotThreeAddress (.inr hsome)
  have hparse : parseBdf slotThree = some slotThreeAddress.numbers := by decide
  have hfound := hpython slotThree hparse (by decide)
  rw [threeCards_found] at hrust hfound
  exact ⟨hrust, hfound⟩

end TtDal.Safety.DeviceAddresses
