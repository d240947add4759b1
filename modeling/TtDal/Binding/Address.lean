import TtDal.Dev.Discovery
import TtDal.Platform.Scan

/-!
# PCI addresses

`Address` of the Rust binding with its text form. Parsing splits the text at its colons and its
dot and reads each field with `from_str_radix`.
-/

namespace TtDal.Binding.Rust

open Platform Dev

/-- `pci::Address` -/
structure Address where
  domain : UInt16
  bus : UInt8
  device : UInt8
  function : UInt8
  deriving DecidableEq, Repr

/-- The components as numbers. -/
def Address.numbers (address : Address) : ℕ × ℕ × ℕ × ℕ :=
  (address.domain.toNat, address.bus.toNat, address.device.toNat, address.function.toNat)

/-- `Display` -/
def Address.display (address : Address) : List Char :=
  formatBdf address.domain.toNat address.bus.toNat address.device.toNat address.function.toNat

def stripPlus : List Char → List Char
  | '+' :: rest => rest
  | src => src

/-- `from_str_radix` of an unsigned type of so many bits. -/
def fromStrRadix (radix bits : ℕ) (src : List Char) : Option ℕ :=
  let digits := stripPlus src
  if digits ≠ [] ∧ digits.all (fun c ↦ (digitValue radix c).isSome) ∧
      digitsValue radix 0 digits < 2 ^ bits then
    some (digitsValue radix 0 digits)
  else
    none

/-- `str::split_once` at a character. -/
def splitOnce (delimiter : Char) (text : List Char) : Option (List Char × List Char) :=
  match text.span (· ≠ delimiter) with
  | (first, _ :: rest) => some (first, rest)
  | (_, []) => none

/-- `from_str`, where every failure is the one `AddrParseError`. -/
def Address.fromStr (s : List Char) : Option Address :=
  match s.count ':' with
  | 2 => do
    let (domain, rest) ← splitOnce ':' s
    let (bus, devfn) ← splitOnce ':' rest
    let (dev, fn) ← splitOnce '.' devfn
    return {
      domain := UInt16.ofNat (← fromStrRadix 16 16 domain)
      bus := UInt8.ofNat (← fromStrRadix 16 8 bus)
      device := UInt8.ofNat (← fromStrRadix 16 8 dev)
      function := UInt8.ofNat (← fromStrRadix 16 8 fn) }
  | 1 => do
    let (bus, devfn) ← splitOnce ':' s
    let (dev, fn) ← splitOnce '.' devfn
    return {
      domain := 0
      bus := UInt8.ofNat (← fromStrRadix 16 8 bus)
      device := UInt8.ofNat (← fromStrRadix 16 8 dev)
      function := UInt8.ofNat (← fromStrRadix 16 8 fn) }
  | _ => none

section Rules

variable {bits value : ℕ} {text first rest : List Char} {delimiter : Char}

theorem splitOnce_append (h : delimiter ∉ first) :
    splitOnce delimiter (first ++ delimiter :: rest) = some (first, rest) := by
  have hfirst : ∀ c ∈ first, decide (c ≠ delimiter) = true := fun c hc ↦
    decide_eq_true fun heq ↦ h (heq ▸ hc)
  have hstop : ¬decide (delimiter ≠ delimiter) = true := by simp
  unfold splitOnce
  rw [List.span_eq_takeWhile_dropWhile, List.takeWhile_append_of_pos hfirst,
    List.dropWhile_append_of_pos hfirst,
    List.dropWhile_cons_of_neg (p := fun c ↦ decide (c ≠ delimiter)) hstop,
    List.takeWhile_cons_of_neg (p := fun c ↦ decide (c ≠ delimiter)) hstop, List.append_nil]

theorem splitOnce_eq_some (h : splitOnce delimiter text = some (first, rest)) :
    text = first ++ delimiter :: rest := by
  unfold splitOnce at h
  rw [List.span_eq_takeWhile_dropWhile] at h
  have hwhole : text.takeWhile (· ≠ delimiter) ++ text.dropWhile (· ≠ delimiter) = text :=
    List.takeWhile_append_dropWhile
  have hstop := List.head?_dropWhile_not (fun c ↦ decide (c ≠ delimiter)) text
  cases hrest : text.dropWhile (· ≠ delimiter) with
  | nil =>
    rw [hrest] at h
    cases h
  | cons c tail =>
    rw [hrest] at h hwhole hstop
    obtain ⟨rfl, rfl⟩ := Prod.mk.inj (Option.some.inj h)
    have hc : c = delimiter := by simpa using hstop
    subst hc
    exact hwhole.symm

theorem fromStrRadix_eq_some {radix : ℕ} : fromStrRadix radix bits text = some value ↔
    Plain radix (stripPlus text) ∧ digitsValue radix 0 (stripPlus text) = value ∧
      value < 2 ^ bits := by
  simp only [fromStrRadix]
  constructor
  · intro h
    split at h
    · rename_i hread
      obtain rfl := Option.some.inj h
      exact ⟨⟨List.all_eq_true.mp hread.2.1, hread.1⟩, rfl, hread.2.2⟩
    · cases h
  · intro h
    obtain ⟨hplain, rfl, hfits⟩ := h
    exact if_pos ⟨hplain.nonempty, List.all_eq_true.mpr hplain.digits, hfits⟩

theorem mem_stripPlus {c : Char} (h : c ∈ text) : c = '+' ∨ c ∈ stripPlus text := by
  unfold stripPlus
  split
  · exact List.mem_cons.mp h
  · exact .inr h

theorem stripPlus_plain {radix : ℕ} (h : Plain radix text) : stripPlus text = text := by
  unfold stripPlus
  split
  · rename_i rest
    have hplus := digit_ne (h.digits '+' List.mem_cons_self)
    exact absurd rfl hplus.2.2.1
  · rfl

/-- A field that was read has no delimiter in it. -/
theorem fromStrRadix_chars (h : fromStrRadix 16 bits text = some value) {c : Char}
    (hc : c ∈ text) : c ≠ ':' ∧ c ≠ '.' := by
  rcases mem_stripPlus hc with rfl | hmem
  · decide
  · have hdigit := (fromStrRadix_eq_some.mp h).1.digits c hmem
    constructor
    all_goals
      rintro rfl
      revert hdigit
      decide

theorem fromStrRadix_plain (h : Plain 16 text) (hfits : digitsValue 16 0 text < 2 ^ bits) :
    fromStrRadix 16 bits text = some (digitsValue 16 0 text) := by
  rw [fromStrRadix_eq_some, stripPlus_plain h]
  exact ⟨h, rfl, hfits⟩

end Rules

/-! ## What is accepted -/

/-- The text has the fields of an address that the field parsers accept. -/
inductive Accepted : List Char → Address → Prop where
  | long {domain bus device function : List Char} {d b v f : ℕ} :
      fromStrRadix 16 16 domain = some d → fromStrRadix 16 8 bus = some b →
      fromStrRadix 16 8 device = some v → fromStrRadix 16 8 function = some f →
      Accepted (spelled domain [(':', bus), (':', device), ('.', function)])
        { domain := UInt16.ofNat d
          bus := UInt8.ofNat b
          device := UInt8.ofNat v
          function := UInt8.ofNat f }
  | short {bus device function : List Char} {b v f : ℕ} :
      fromStrRadix 16 8 bus = some b → fromStrRadix 16 8 device = some v →
      fromStrRadix 16 8 function = some f →
      Accepted (spelled bus [(':', device), ('.', function)])
        { domain := 0
          bus := UInt8.ofNat b
          device := UInt8.ofNat v
          function := UInt8.ofNat f }

section Accepted

variable {s : List Char} {address : Address}

theorem fromStr_reads (h : Address.fromStr s = some address) : Accepted s address := by
  unfold Address.fromStr at h
  split at h
  · simp only [Option.bind_eq_bind, Option.bind_eq_some_iff, Option.pure_def, Option.some.injEq,
      Prod.exists] at h
    obtain ⟨domain, rest, hdomain, bus, devfn, hbus, dev, fn, hdev, d, hd, b, hb, v, hv, f, hf, rfl⟩ := h
    obtain rfl := splitOnce_eq_some hdomain
    obtain rfl := splitOnce_eq_some hbus
    obtain rfl := splitOnce_eq_some hdev
    exact .long hd hb hv hf
  · simp only [Option.bind_eq_bind, Option.bind_eq_some_iff, Option.pure_def, Option.some.injEq,
      Prod.exists] at h
    obtain ⟨bus, devfn, hbus, dev, fn, hdev, b, hb, v, hv, f, hf, rfl⟩ := h
    obtain rfl := splitOnce_eq_some hbus
    obtain rfl := splitOnce_eq_some hdev
    exact .short hb hv hf
  · cases h

theorem count_field {bits value : ℕ} {field : List Char}
    (h : fromStrRadix 16 bits field = some value) : field.count ':' = 0 :=
  List.count_eq_zero.mpr fun hmem ↦ absurd rfl (fromStrRadix_chars h hmem).1

theorem Accepted.fromStr (h : Accepted s address) : Address.fromStr s = some address := by
  have hcolon {bits value : ℕ} {field : List Char} (h : fromStrRadix 16 bits field = some value) :
      ':' ∉ field := fun hmem ↦ absurd rfl (fromStrRadix_chars h hmem).1
  have hdot {bits value : ℕ} {field : List Char} (h : fromStrRadix 16 bits field = some value) :
      '.' ∉ field := fun hmem ↦ absurd rfl (fromStrRadix_chars h hmem).2
  cases h with
  | @long domain bus device function d b v f hd hb hv hf =>
    have hcount : (spelled domain [(':', bus), (':', device), ('.', function)]).count ':' = 2 := by
      simp [spelled, List.count_append, count_field hd, count_field hb,
        count_field hv, count_field hf]
    unfold Address.fromStr
    rw [hcount]
    simp only [spelled, splitOnce_append (hcolon hd), splitOnce_append (hcolon hb),
      splitOnce_append (hdot hv), Option.bind_eq_bind, Option.bind_some, hd, hb, hv, hf]
    rfl
  | @short bus device function b v f hb hv hf =>
    have hcount : (spelled bus [(':', device), ('.', function)]).count ':' = 1 := by
      simp [spelled, List.count_append, count_field hb, count_field hv,
        count_field hf]
    unfold Address.fromStr
    rw [hcount]
    simp only [spelled, splitOnce_append (hcolon hb), splitOnce_append (hdot hv),
      Option.bind_eq_bind, Option.bind_some, hb, hv, hf]
    rfl

theorem fromStr_eq_some_iff : Address.fromStr s = some address ↔ Accepted s address :=
  ⟨fromStr_reads, Accepted.fromStr⟩

end Accepted

end TtDal.Binding.Rust
