import TtDal.Driver.Listing
import TtDal.Platform.Scan
import Mathlib.Data.List.Basic

/-!
# The names of the device nodes

A scan and the lookup by path each decode the name of a node, and opening a device prints one. The
three agree on the names that are printed and on the names that are no numbers. Every other number
is decoded to a device whose node has another name.
-/

namespace TtDal.Safety.DeviceNames

open Effect Platform Dev Driver

/-- The name of an entry of a directory. -/
structure EntryName where
  text : String
  nonempty : text ≠ ""
  noSlash : '/' ∉ text.toList
  noNul : Char.ofNat 0 ∉ text.toList

namespace EntryName

/-- The entry of a character device. -/
def entry (name : EntryName) : Dirent := { name := name.text, isChr := true }

def node (name : EntryName) : String := "/dev/tenstorrent/" ++ name.text

-- Its equation is not left to unification, which would print the prefix.
theorem node_eq (name : EntryName) : name.node = "/dev/tenstorrent/" ++ name.text := by
  delta node
  rfl

end EntryName

/-- `realpath(3)` gives back a path that it resolves to itself. -/
def resolving : Contract Sys Unit where
  answers
    | .realpath path, _, .ok resolved _, _ => resolved = path
    | .realpath _, _, .fail _, _ => False
    | _, _, _, _ => True
  permits op _ := ∃ path, op = .realpath path
  tolerates _ := False

/-- Wherever it stands in the directory, a scan reports these devices for the entry. -/
def Reports (entry : Dirent) (devs : List Device) : Prop :=
  ∀ before after fate rounds cap thread, (before ++ entry :: after).length < rounds →
    Procedure.Completes
      (Listing.contract Listing.Scans (· = .listed (before ++ entry :: after)) fate)
      (ttDevScan rounds cap) thread Listing.initial fun _ res _ _ ↦
        res = Scan.report cap (before.filterMap scanEntry ++ (devs ++ after.filterMap scanEntry))

/-- The lookup of a path gives the device. -/
def Yields (path : String) (dev : Device) : Prop :=
  ∀ old thread, Procedure.Completes resolving (ttDevFromPath (some path) (some old)) thread ()
    fun _ res _ _ ↦ res = (.TT_OK (), some dev)

/-- The scan and the lookup agree on a name, and the device they find is opened by that name. -/
structure Agreed (name : EntryName) : Prop where
  decoded : ∀ dev, Reports name.entry [dev] ↔ Yields name.node dev
  opened : ∀ dev, Reports name.entry [dev] → devicePath dev = name.node

/-! ## The two decoders -/

section Decoders

variable {entry : Dirent} {devs : List Device} {dev : Device} {text : String}

theorem filterMap_entry (before after : List Dirent) :
    (before ++ entry :: after).filterMap scanEntry =
      before.filterMap scanEntry ++ ((scanEntry entry).toList ++ after.filterMap scanEntry) := by
  rw [List.filterMap_append]
  congr 1
  cases hdev : scanEntry entry with
  | none => rw [List.filterMap_cons_none hdev, Option.toList_none, List.nil_append]
  | some dev => rw [List.filterMap_cons_some hdev, Option.toList_some, List.singleton_append]

theorem reports_scanEntry (entry : Dirent) : Reports entry (scanEntry entry).toList := by
  intro before after fate rounds cap thread hrounds
  have hsome : ∃ scan, scan = Scan.listed (before ++ entry :: after) := ⟨_, rfl⟩
  have hlisted : ∀ scan, scan = Scan.listed (before ++ entry :: after) →
      scan.entries.length < rounds := by
    intro scan hscan
    rw [hscan]
    exact hrounds
  have hscan : Procedure.wp (Listing.contract Listing.Scans _ fate) _ _ thread Listing.initial :=
    Listing.wp_ttDevScan (fun _ h ↦ h) rounds cap hlisted
  rw [← filterMap_entry]
  have hreport := Procedure.wp_mono hscan fun _ res _ _ hreported ↦
    show res = Scan.report cap ((before ++ entry :: after).filterMap scanEntry) by
      obtain ⟨scan, -, -, rfl, hres⟩ := hreported
      exact hres
  exact (Listing.completes_of_wp hsome hreport).mono fun _ _ _ _ hpost ↦ hpost.2

theorem report_inj {cap : ℕ} {found other : List Device} (hcap : found.length ≤ cap)
    (h : Scan.report cap found = Scan.report cap other) : found = other := by
  have hpair := Prod.ext_iff.mp (Result.TT_OK.inj h)
  have hlength : found.length = other.length := hpair.1
  have htake : found.take cap = other.take cap := hpair.2
  rwa [List.take_of_length_le hcap, List.take_of_length_le (hlength ▸ hcap)] at htake

/-- What a scan reports for an entry is what it decodes. -/
theorem reports_iff : Reports entry devs ↔ devs = (scanEntry entry).toList := by
  constructor
  · intro h
    have hown := reports_scanEntry entry [] [] (fun _ _ ↦ .unopened .ENODEV) 2 devs.length
      Thread.initial (Nat.lt_succ_self 1)
    have hsame := h [] [] (fun _ _ ↦ .unopened .ENODEV) 2 devs.length Thread.initial
      (Nat.lt_succ_self 1)
    obtain ⟨trace, res, thread', s', hres, hres'⟩ := hsame.common hown
    have hreport := hres.symm.trans hres'
    simp only [List.filterMap_nil, List.nil_append, List.append_nil] at hreport
    exact report_inj (Nat.le_refl _) hreport
  · rintro rfl
    exact reports_scanEntry entry

/-- What the lookup by path takes a name for. -/
def decoded (text : String) : Option Device :=
  let (num, rest, _) := strtoul text.toList
  if rest ≠ [] ∨ 2 ^ 32 ≤ num then none else some { id := UInt32.ofNat num }

theorem nodeNumber_node (text : String) :
    nodeNumber ("/dev/tenstorrent/" ++ text).toList = some text.toList :=
  List.isPrefixOf?_eq_some_iff_append_eq.mpr (String.toList_append).symm

/-- What the lookup gives for a node. -/
def lookedUp (text : String) (old : Device) : Status × Option Device :=
  match decoded text with
  | some dev => (.TT_OK (), some dev)
  | none => (.TT_ERR, some old)

theorem wp_ttDevFromPath (text : String) (old : Device) (thread : Thread) :
    Procedure.wp resolving (ttDevFromPath (some ("/dev/tenstorrent/" ++ text)) (some old))
      (fun _ res _ _ ↦ res = lookedUp text old) thread () := by
  simp only [ttDevFromPath, devFromPath]
  rw [Procedure.wp_bind, Procedure.wp_bind, wp_sys]
  refine ⟨⟨_, rfl⟩, fun reply _ hanswer ↦ ?_⟩
  cases reply with
  | fail err => exact hanswer.elim
  | ok resolved residue =>
    obtain rfl : resolved = "/dev/tenstorrent/" ++ text := hanswer
    simp only [nodeNumber_node, lookedUp, decoded]
    split
    · rfl
    · rfl

theorem completes_ttDevFromPath (text : String) (old : Device) (thread : Thread) :
    Procedure.Completes resolving
      (ttDevFromPath (some ("/dev/tenstorrent/" ++ text)) (some old)) thread ()
      fun _ res _ _ ↦ res = lookedUp text old := by
  apply Procedure.wp_completes
  · intro op _ hop
    obtain ⟨path, rfl⟩ := hop
    exact ⟨.ok path (.other 0), (), rfl⟩
  · exact fun _ ↦ id
  · exact wp_ttDevFromPath text old thread

/-- The lookup gives the device that it decodes. -/
theorem yields_iff : Yields ("/dev/tenstorrent/" ++ text) dev ↔ decoded text = some dev := by
  constructor
  · intro h
    obtain ⟨_, _, _, _, hres, hres'⟩ := (h dev Thread.initial).common
      (completes_ttDevFromPath text dev Thread.initial)
    rw [hres, lookedUp] at hres'
    split at hres'
    · rename_i found heq
      rw [heq, Option.some.inj (Prod.ext_iff.mp hres').2]
    · exact absurd (Prod.ext_iff.mp hres').1 nofun
  · intro h old thread
    refine (completes_ttDevFromPath text old thread).mono fun _ res _ _ hres ↦ ?_
    rw [hres, lookedUp, h]

/-! ## Printed names -/

theorem scanEntry_chr (text : String) : scanEntry { name := text, isChr := true } =
    if (strtoul text.toList).2.1 = [] then some { id := UInt32.ofNat (strtoul text.toList).1 }
    else none := by
  unfold scanEntry
  rfl

theorem scanEntry_repr (id : UInt32) :
    scanEntry { name := id.toNat.repr, isChr := true } = some { id := id } := by
  obtain ⟨overflow, hread⟩ := strtoul_repr (Nat.lt_trans id.toNat_lt (by decide))
  rw [scanEntry_chr, hread, UInt32.ofNat_toNat]
  exact if_pos rfl

theorem decoded_repr (id : UInt32) : decoded id.toNat.repr = some { id := id } := by
  obtain ⟨overflow, hread⟩ := strtoul_repr (Nat.lt_trans id.toNat_lt (by decide))
  have hfits : ¬(([] : List Char) ≠ [] ∨ 2 ^ 32 ≤ id.toNat) :=
    not_or.mpr ⟨not_not.mpr rfl, Nat.not_le.mpr id.toNat_lt⟩
  simp only [decoded, hread, if_neg hfits, UInt32.ofNat_toNat]

theorem scanEntry_numeral (name : EntryName) :
    (scanEntry name.entry).isSome ↔ Numeral 10 name.text.toList := by
  have hne : name.text.toList ≠ [] := mt String.toList_eq_nil_iff.mp name.nonempty
  rw [← strtoul_whole_iff hne]
  rw [EntryName.entry, scanEntry_chr]
  by_cases hrest : (strtoul name.text.toList).2.1 = []
  · rw [if_pos hrest]
    exact iff_of_true rfl hrest
  · rw [if_neg hrest]
    exact iff_of_false nofun hrest

theorem decoded_eq_none (name : EntryName) (h : ¬Numeral 10 name.text.toList) :
    decoded name.text = none := by
  have hne : name.text.toList ≠ [] := mt String.toList_eq_nil_iff.mp name.nonempty
  rw [← strtoul_whole_iff hne] at h
  exact if_pos (.inl h)

/-- A name is the node of a device exactly when it is printed for one. -/
theorem devicePath_eq_iff (name : EntryName) :
    devicePath dev = name.node ↔ name.text = dev.id.toNat.repr := by
  unfold devicePath
  rw [EntryName.node_eq, String.append_right_inj, eq_comm]

/-- Different devices have different nodes. -/
theorem devicePath_injective : Function.Injective devicePath := by
  intro dev dev' hsame
  unfold devicePath at hsame
  have hprinted : dev.id.toNat.repr = dev'.id.toNat.repr := (String.append_right_inj _).mp hsame
  have hread : scanEntry { name := dev.id.toNat.repr, isChr := true } = some dev := scanEntry_repr _
  rw [hprinted, scanEntry_repr] at hread
  exact (Option.some.inj hread).symm

theorem agreed_printed (name : EntryName) (id : UInt32) (h : name.text = id.toNat.repr) :
    Agreed name where
  decoded dev := by
    rw [reports_iff, EntryName.entry, EntryName.node_eq, yields_iff, h, scanEntry_repr, decoded_repr]
    simp only [Option.toList_some, List.cons.injEq, and_true, Option.some.injEq]
    exact eq_comm
  opened dev hreports := by
    rw [reports_iff, EntryName.entry, h, scanEntry_repr] at hreports
    obtain rfl := List.cons.inj hreports |>.1
    exact (devicePath_eq_iff name).mpr h

theorem agreed_other (name : EntryName) (h : ¬Numeral 10 name.text.toList) : Agreed name := by
  have hunread : scanEntry name.entry = none :=
    Option.not_isSome_iff_eq_none.mp (mt (scanEntry_numeral name).mp h)
  have hunreported (dev : Device) : ¬Reports name.entry [dev] := by
    rw [reports_iff, hunread]
    exact List.cons_ne_nil _ _
  refine ⟨fun dev ↦ iff_of_false (hunreported dev) ?_, fun dev hreports ↦ ?_⟩
  · rw [EntryName.node_eq, yields_iff, decoded_eq_none name h]
    exact nofun
  · exact absurd hreports (hunreported dev)

/-- A number is a name of a device only as it is printed. -/
theorem Agreed.printed {name : EntryName} (h : Agreed name) (hnumeral : Numeral 10 name.text.toList) :
    ∃ id : UInt32, name.text = id.toNat.repr := by
  obtain ⟨dev, hdev⟩ := Option.isSome_iff_exists.mp ((scanEntry_numeral name).mpr hnumeral)
  have hreports : Reports name.entry [dev] := by
    rw [reports_iff, hdev]
    rfl
  exact ⟨dev.id, (devicePath_eq_iff name).mp (h.opened dev hreports)⟩

/-- The scan and the two lookups agree exactly on the names that are printed and on those that are
no numbers, and every printed name is decoded to its device by both. -/
theorem names_agreed_iff (name : EntryName) :
    (Agreed name ↔
      (∃ id : UInt32, name.text = id.toNat.repr) ∨ ¬Numeral 10 name.text.toList) ∧
    ∀ id : UInt32, name.text = id.toNat.repr →
      Reports name.entry [{ id := id }] ∧ Yields name.node { id := id } := by
  refine ⟨⟨fun h ↦ ?_, fun h ↦ ?_⟩, fun id h ↦ ⟨?_, ?_⟩⟩
  · by_cases hnumeral : Numeral 10 name.text.toList
    · exact .inl (h.printed hnumeral)
    · exact .inr hnumeral
  · rcases h with ⟨id, hprinted⟩ | hother
    · exact agreed_printed name id hprinted
    · exact agreed_other name hother
  · rw [reports_iff, EntryName.entry, h, scanEntry_repr]
    rfl
  · rw [EntryName.node_eq, yields_iff, h, decoded_repr]

end Decoders

/-- `"7"` -/
def seven : EntryName where
  text := "7"
  nonempty := by decide
  noSlash := by decide
  noNul := by decide

/-- The name that is printed for device 7. -/
theorem seven_agreed : seven.text = (7 : UInt32).toNat.repr ∧ Agreed seven ∧
    Reports seven.entry [{ id := 7 }] ∧ Yields seven.node { id := 7 } := by
  have hprinted : seven.text = (7 : UInt32).toNat.repr := by decide
  exact ⟨hprinted, (names_agreed_iff seven).1.mpr (.inl ⟨7, hprinted⟩),
    (names_agreed_iff seven).2 7 hprinted⟩

/-- `"4294967296"` -/
def past32 : EntryName where
  text := "4294967296"
  nonempty := by decide
  noSlash := by decide
  noNul := by decide

/-- `"05"` -/
def padded : EntryName where
  text := "05"
  nonempty := by decide
  noSlash := by decide
  noNul := by decide

/-- A number of 33 bits is scanned as device 0 while the lookup rejects it, and both take `"05"`
for the device whose node is `"5"`. -/
theorem lenient_names_disagree :
    Reports past32.entry [{ id := 0 }] ∧ ¬Yields past32.node { id := 0 } ∧ ¬Agreed past32 ∧
    Reports padded.entry [{ id := 5 }] ∧ Yields padded.node { id := 5 } ∧
    devicePath { id := 5 } ≠ padded.node ∧ ¬Agreed padded := by
  have hscanned : Reports past32.entry [{ id := 0 }] := by
    rw [reports_iff]
    decide
  have hrejected : ¬Yields past32.node { id := 0 } := by
    rw [EntryName.node_eq, yields_iff]
    decide
  have hpadded : Reports padded.entry [{ id := 5 }] := by
    rw [reports_iff]
    decide
  have htaken : Yields padded.node { id := 5 } := by
    rw [EntryName.node_eq, yields_iff]
    decide
  have hother : devicePath { id := 5 } ≠ padded.node := by
    rw [ne_eq, devicePath_eq_iff]
    decide
  exact ⟨hscanned, hrejected, fun h ↦ hrejected ((h.decoded _).mp hscanned), hpadded, htaken,
    hother, fun h ↦ hother (h.opened _ hpadded)⟩

end TtDal.Safety.DeviceNames
