import TtDal.Dev.Telemetry

/-!
# The tag table

What `snapshot` makes of the words of the tag table, apart from how it reads them. An entry whose
tag is out of range is skipped. An entry whose offset equals the sentinel leaves its tag unset, but
like any other it is refused when its tag has an offset already.
-/

namespace TtDal.Safety.TagTable

open Effect Platform Dev

def entryTag (entry : UInt32) : ℕ := entry.toNat % 2 ^ 16

def entryOffset (entry : UInt32) : UInt16 := UInt16.ofNat (entry.toNat / 2 ^ 16)

/-- Some entry lists the tag at the offset. -/
def Listed (entries : List UInt32) (tag : Fin TT_TELEMETRY_LEN) (off : UInt16) : Prop :=
  ∃ entry ∈ entries, entryTag entry = tag ∧ entryOffset entry = off

/-- The offset map of a list of entries, on top of a map. -/
def recordEntries : List UInt32 → TagMap → Option TagMap
  | [], map => some map
  | entry :: rest, map => (recordEntry map entry).bind (recordEntries rest)

section Entries

variable {entries : List UInt32} {entry : UInt32} {map map' : TagMap}
  {tag : Fin TT_TELEMETRY_LEN} {off : UInt16}

/-- An entry whose tag is in range. -/
def InRange (entry : UInt32) : Prop :=
  entryTag entry ≠ 0 ∧ entryTag entry < TT_TELEMETRY_LEN

theorem recordEntry_of_not_inRange (h : ¬InRange entry) : recordEntry map entry = some map := by
  unfold InRange entryTag at h
  rw [recordEntry, dif_pos]
  omega

theorem recordEntry_of_eq (hzero : (tag : ℕ) ≠ 0) (htag : entryTag entry = tag) :
    recordEntry map entry =
      if map tag ≠ unset then none else some (Function.update map tag (entryOffset entry)) := by
  unfold entryTag at htag
  have hrange : ¬(entry.toNat % 2 ^ 16 = 0 ∨ TT_TELEMETRY_LEN ≤ entry.toNat % 2 ^ 16) := by
    have hlt := tag.isLt
    omega
  have hfin : (⟨entry.toNat % 2 ^ 16, by omega⟩ : Fin TT_TELEMETRY_LEN) = tag := Fin.ext htag
  simp only [recordEntry, dif_neg hrange, hfin]
  rfl

/-- What one entry does to the map, tag by tag. -/
theorem recordEntry_eq_some (h : recordEntry map entry = some map') (hzero : (tag : ℕ) ≠ 0)
    (hoff : off ≠ unset) :
    map' tag = off ↔ map tag = off ∨ entryTag entry = tag ∧ entryOffset entry = off := by
  by_cases hrange : InRange entry
  · obtain ⟨hpositive, hlt⟩ := hrange
    let tag' : Fin TT_TELEMETRY_LEN := ⟨entryTag entry, hlt⟩
    have hrecorded : recordEntry map entry = if map tag' ≠ unset then none
        else some (Function.update map tag' (entryOffset entry)) := recordEntry_of_eq hpositive rfl
    rw [hrecorded] at h
    split at h
    · cases h
    · rename_i hunset
      obtain rfl := Option.some.inj h
      by_cases heq : tag = tag'
      · subst heq
        have hmap : map tag' = unset := not_not.mp hunset
        rw [Function.update_self, hmap]
        constructor
        · exact fun hentry ↦ .inr ⟨rfl, hentry⟩
        · rintro (hsentinel | ⟨-, hentry⟩)
          · exact absurd hsentinel.symm hoff
          · exact hentry
      · rw [Function.update_of_ne heq]
        have hne : entryTag entry ≠ tag := fun htag ↦ heq (Fin.ext htag.symm)
        simp [hne]
  · rw [recordEntry_of_not_inRange hrange] at h
    obtain rfl := Option.some.inj h
    have hne : entryTag entry ≠ tag := by
      intro htag
      apply hrange
      unfold InRange
      rw [htag]
      exact ⟨hzero, tag.isLt⟩
    simp [hne]

/-- The map holds what the entries list. -/
theorem recordEntries_eq_some (h : recordEntries entries map = some map') (hzero : (tag : ℕ) ≠ 0)
    (hoff : off ≠ unset) : map' tag = off ↔ map tag = off ∨ Listed entries tag off := by
  induction entries generalizing map with
  | nil =>
    obtain rfl := Option.some.inj h
    simp [Listed]
  | cons entry rest ih =>
    obtain ⟨middle, hentry, hrest⟩ := Option.bind_eq_some_iff.mp h
    rw [ih hrest, recordEntry_eq_some hentry hzero hoff]
    simp only [Listed, List.mem_cons, exists_eq_or_imp]
    tauto

end Entries

end TtDal.Safety.TagTable
