import TtDal.Driver.Aperture
import TtDal.Safety.SnapshotCoherence
import TtDal.Safety.TelemetryCalls

/-!
# Where telemetry reads

Telemetry checks that the two published pointers lie in shared memory, and follows them: to the
entry count and the entries behind the first, and to a data word behind the second for every tag
that is listed. How far it goes is the firmware's to say. The reads stay in shared memory exactly
when the pointers are aligned and the firmware lists nothing beyond its end.
-/

namespace TtDal.Safety.TelemetryReads

open Effect Platform Dev Driver GuardedReads TagTable TelemetryCalls

open SnapshotCoherence (attempt attemptSnapshot_eq sampleTag)

open SnapshotDecoding (mem_telemetryTags)

/-! ## What the content requires -/

/-- A word of shared memory. -/
def Shared (addr : ℕ) : Prop :=
  addr % 4 = 0 ∧ CSM_BASE.toNat ≤ addr ∧ addr + 4 ≤ CSM_BASE.toNat + CSM_SIZE.toNat

/-- The address of an entry of the tag table. -/
def entryAddr (tags idx : ℕ) : ℕ := tags + 4 * (2 + idx)

section Content

variable (memory : ℕ → Memory) (tags data : ℕ)

/-- The clamped entry count, which is the third word that is read. -/
def entryCount : ℕ := min (memory 2 (tags + 4)).toNat TELEM_ENTRY_CAP

/-- An entry, which is read after the count and the entries before it. -/
def entryWord (idx : ℕ) : UInt32 := memory (3 + idx) (entryAddr tags idx)

/-- The entries from one index on, in a number. -/
def entryWords (first number : ℕ) : List UInt32 :=
  (List.range' first number).map (entryWord memory tags)

/-- The offsets of the listed tags, unless a tag is repeated. -/
def tagMap : Option TagMap :=
  recordEntries (entryWords memory tags 0 (entryCount memory tags)) fun _ ↦ unset

/-- The pointers are aligned, and neither the table of tags, up to a repeated tag, nor a listed
word reaches beyond shared memory. -/
structure Contained : Prop where
  aligned : tags % 4 = 0
  count : tags + 8 ≤ CSM_BASE.toNat + CSM_SIZE.toNat
  entries : ∀ idx < entryCount memory tags,
    recordEntries (entryWords memory tags 0 idx) (fun _ ↦ unset) ≠ none →
      tags + 4 * (3 + idx) ≤ CSM_BASE.toNat + CSM_SIZE.toNat
  words : ∀ map, tagMap memory tags = some map → ∀ tag : Fin TT_TELEMETRY_LEN, (tag : ℕ) ≠ 0 →
    map tag ≠ unset → data % 4 = 0 ∧
      data + 4 * (map tag).toNat + 4 ≤ CSM_BASE.toNat + CSM_SIZE.toNat

/-- The words for the given tags. -/
def wordsOf (map : TagMap) (listed : List (Fin TT_TELEMETRY_LEN)) : Set ℕ :=
  { addr | ∃ tag ∈ listed, map tag ≠ unset ∧ addr = wordAddr data (map tag) }

/-- The entries that are read, which end with a repeated tag. -/
def entriesOf (map : TagMap) (first number : ℕ) : Set ℕ :=
  { addr | ∃ step < number, recordEntries (entryWords memory tags first step) map ≠ none ∧
      addr = entryAddr tags (first + step) }

/-- The words that the content asks to read. -/
def required : Set ℕ :=
  insert (tags + 4) (entriesOf memory tags (fun _ ↦ unset) 0 (entryCount memory tags) ∪
    { addr | ∃ map, tagMap memory tags = some map ∧ addr ∈ wordsOf data map telemetryTags })

end Content

section Content

variable {memory : ℕ → Memory} {tags data : ℕ}

theorem entryWords_succ (first number : ℕ) : entryWords memory tags first (number + 1) =
    entryWord memory tags first :: entryWords memory tags (first + 1) number := by
  rw [entryWords, List.range'_succ, List.map_cons, entryWords]

/-- The first entry is read, and the others if it is recorded. -/
theorem mem_entriesOf_succ {map : TagMap} {first number addr : ℕ} :
    addr ∈ entriesOf memory tags map first (number + 1) ↔ addr = entryAddr tags first ∨
      ∃ map', recordEntry map (entryWord memory tags first) = some map' ∧
        addr ∈ entriesOf memory tags map' (first + 1) number := by
  constructor
  · rintro ⟨step, hstep, hrecords, rfl⟩
    cases step with
    | zero => exact .inl rfl
    | succ step =>
      rw [entryWords_succ, recordEntries] at hrecords
      cases hentry : recordEntry map (entryWord memory tags first) with
      | none => simp [hentry] at hrecords
      | some map' =>
        rw [hentry, Option.bind_some] at hrecords
        refine .inr ⟨map', rfl, step, Nat.lt_of_succ_lt_succ hstep, hrecords, ?_⟩
        rw [Nat.add_assoc, Nat.add_comm 1 step]
  · rintro (rfl | ⟨map', hentry, step, hstep, hrecords, rfl⟩)
    · exact ⟨0, Nat.succ_pos _, by simp [entryWords, recordEntries], rfl⟩
    · refine ⟨step + 1, Nat.succ_lt_succ hstep, ?_, ?_⟩
      · rw [entryWords_succ, recordEntries, hentry, Option.bind_some]
        exact hrecords
      · rw [Nat.add_assoc, Nat.add_comm 1 step]

/-- Contained content asks for words of shared memory only, where the pointers are valid. -/
theorem required_shared_iff (htags : CSM_BASE.toNat ≤ tags) (hdata : CSM_BASE.toNat ≤ data) :
    (∀ addr ∈ required memory tags data, Shared addr) ↔ Contained memory tags data := by
  constructor
  · intro h
    obtain ⟨haligned, -, hcount⟩ := h (tags + 4) (Set.mem_insert _ _)
    refine ⟨by omega, by omega, fun idx hidx hrecords ↦ ?_, fun map hmap tag hzero hset ↦ ?_⟩
    · have hentry : Shared (entryAddr tags (0 + idx)) :=
        h _ (.inr (.inl ⟨idx, hidx, hrecords, rfl⟩))
      have hend := hentry.2.2
      unfold entryAddr at hend
      omega
    · have hword : Shared (wordAddr data (map tag)) :=
        h _ (.inr (.inr ⟨map, hmap, tag, mem_telemetryTags.mpr hzero, hset, rfl⟩))
      obtain ⟨haligned, -, hend⟩ := hword
      unfold wordAddr at haligned hend
      omega
  · intro h addr hrequired
    have haligned := h.aligned
    rcases hrequired with rfl | ⟨idx, hidx, hrecords, rfl⟩ | ⟨map, hmap, tag, hmem, hset, rfl⟩
    · have hcount := h.count
      exact ⟨by omega, by omega, by omega⟩
    · have hend := h.entries idx hidx hrecords
      unfold entryAddr
      exact ⟨by omega, by omega, by omega⟩
    · obtain ⟨haligned, hend⟩ := h.words map hmap tag (mem_telemetryTags.mp hmem) hset
      unfold wordAddr
      exact ⟨by omega, by omega, by omega⟩

end Content

/-- The published pointers, which are the first two words that are read. -/
def tagsPointer (arch : ArchConstants) (memory : ℕ → Memory) : UInt32 :=
  memory 0 arch.telemTags.toNat

def dataPointer (arch : ArchConstants) (memory : ℕ → Memory) : UInt32 :=
  memory 1 arch.telemData.toNat

def Valid (arch : ArchConstants) (memory : ℕ → Memory) : Prop :=
  validPointer (tagsPointer arch memory) = true ∧ validPointer (dataPointer arch memory) = true

/-- What is behind the published pointers is contained. -/
def Sound (arch : ArchConstants) (memory : ℕ → Memory) : Prop :=
  Contained memory (tagsPointer arch memory).toNat (dataPointer arch memory).toNat

/-! ## What is visited -/

/-- Only the second addresses were read, and all of the first unless the device was disturbed. -/
def Visits (undisturbed : Bool) (must may : Set ℕ) (s s' : Aperture) : Prop :=
  ∃ addrs, s' = s.logged addrs ∧ (∀ addr ∈ addrs, addr ∈ may) ∧
    (undisturbed = true → ∀ addr ∈ must, addr ∈ addrs)

section Visits

variable {undisturbed : Bool} {must must' may may' : Set ℕ} {s s' s'' : Aperture} {addr : ℕ}

theorem visits_none : Visits undisturbed ∅ may s s :=
  ⟨[], Aperture.logged_nil.symm, nofun, fun _ _ hmem ↦ hmem.elim⟩

theorem visits_read : Visits undisturbed {addr} {addr} s (s.logged [addr]) :=
  ⟨[addr], rfl, fun _ hmem ↦ List.mem_singleton.mp hmem, fun _ _ hmem ↦ List.mem_singleton.mpr hmem⟩

theorem Visits.mono (h : Visits undisturbed must may s s') (hmust : must' ⊆ must)
    (hmay : may ⊆ may') : Visits undisturbed must' may' s s' := by
  obtain ⟨addrs, hlog, honly, hall⟩ := h
  exact ⟨addrs, hlog, fun addr hmem ↦ hmay (honly addr hmem),
    fun hu addr hmem ↦ hall hu addr (hmust hmem)⟩

theorem Visits.trans (h : Visits undisturbed must may s s') (h' : Visits undisturbed must' may s' s'') :
    Visits undisturbed (must ∪ must') may s s'' := by
  obtain ⟨addrs, rfl, honly, hall⟩ := h
  obtain ⟨addrs', rfl, honly', hall'⟩ := h'
  refine ⟨addrs ++ addrs', Aperture.logged_logged, ?_, ?_⟩
  · exact List.forall_mem_append.mpr ⟨honly, honly'⟩
  · rintro hu addr (hmem | hmem)
    · exact List.mem_append_left _ (hall hu addr hmem)
    · exact List.mem_append_right _ (hall' hu addr hmem)

/-- A disturbed device may have kept the code from any read. -/
theorem Visits.cut (h : Visits undisturbed must may s s') (hu : undisturbed = false) :
    Visits undisturbed must' may s s' := by
  obtain ⟨addrs, hlog, honly, -⟩ := h
  refine ⟨addrs, hlog, honly, fun hu' ↦ ?_⟩
  cases hu.symm.trans hu'

theorem Visits.same_window (h : Visits undisturbed must may s s') :
    s'.start = s.start ∧ s'.target = s.target := by
  obtain ⟨addrs, rfl, -⟩ := h
  exact ⟨rfl, rfl⟩

end Visits

/-! ## The guarded code -/

section Reads

variable {arch : ArchConstants} {memory : ℕ → Memory} {undisturbed : Bool} {s : Aperture}
  {thread : Thread} {off : ℕ} {table : Ref} {map : TagMap}

/-- The rule for a read. -/
theorem wp_read {α : Type} {addr : ℕ} {next : UInt32 → Guarded α}
    {post : Except Unit α → Aperture → Prop}
    (hword : Procedure.wp (Aperture.contract arch memory undisturbed)
      (next (memory s.log.length (s.address addr))).run (fun _ res _ s' ↦ post res s') thread
      (s.logged [s.address addr]))
    (hfault : undisturbed = false → post (.error ()) (s.logged [s.address addr])) :
    Procedure.wp (Aperture.contract arch memory undisturbed) (deref addr >>= next).run
      (fun _ res _ s' ↦ post res s') thread s := by
  rw [ExceptT.run_bind, Procedure.wp_bind, wp_deref]
  refine ⟨trivial, fun answer s' hanswer ↦ ?_⟩
  obtain ⟨rfl, rfl | ⟨hu, rfl⟩⟩ := hanswer
  · exact hword
  · dsimp only
    split
    · exact hfault hu
    · exact hu

/-- The words that the code visits for the tags it is given. -/
theorem wp_fillTable (tags : List (Fin TT_TELEMETRY_LEN)) :
    Procedure.wp (Aperture.contract arch memory undisturbed)
      (fillTable (s.start + off) map table tags).run (fun _ res _ s' ↦
        Visits undisturbed (wordsOf (s.target + off) map tags) (wordsOf (s.target + off) map tags) s s' ∧
        (res = .error () → undisturbed = false)) thread s := by
  induction tags generalizing thread s with
  | nil => exact ⟨visits_none.mono (fun _ ⟨_, hmem, _⟩ ↦ nomatch hmem) subset_rfl, nofun⟩
  | cons tag tags ih =>
    have htail : wordsOf (s.target + off) map tags ⊆ wordsOf (s.target + off) map (tag :: tags) := by
      rintro addr ⟨other, hmem, hset, heq⟩
      exact ⟨other, List.mem_cons_of_mem _ hmem, hset, heq⟩
    unfold fillTable
    by_cases hset : map tag ≠ unset
    · have haddr : s.address (wordAddr (s.start + off) (map tag)) =
          wordAddr (s.target + off) (map tag) := by
        rw [wordAddr, Nat.add_assoc, Aperture.address_start, wordAddr, Nat.add_assoc]
      have hhead : wordAddr (s.target + off) (map tag) ∈
          wordsOf (s.target + off) map (tag :: tags) := ⟨tag, List.mem_cons_self, hset, rfl⟩
      have hread : Visits undisturbed {wordAddr (s.target + off) (map tag)}
          (wordsOf (s.target + off) map (tag :: tags)) s
          (s.logged [wordAddr (s.target + off) (map tag)]) :=
        visits_read.mono subset_rfl (Set.singleton_subset_iff.mpr hhead)
      rw [if_pos hset]
      refine wp_read ?_ ?_
      · rw [haddr, wp_guarded_modify]
        refine Procedure.wp_mono (ih (s := s.logged _)) fun _ res _ s' hfill ↦ ?_
        refine ⟨(hread.trans (hfill.1.mono subset_rfl htail)).mono ?_ subset_rfl, hfill.2⟩
        rintro addr ⟨other, hmem, hother, rfl⟩
        rcases List.mem_cons.mp hmem with rfl | hmem
        · exact .inl rfl
        · exact .inr ⟨other, hmem, hother, rfl⟩
      · rw [haddr]
        exact fun hu ↦ ⟨hread.cut hu, fun _ ↦ hu⟩
    · rw [if_neg hset]
      refine Procedure.wp_mono ih fun _ res _ s' hfill ↦ ⟨hfill.1.mono ?_ htail, hfill.2⟩
      rintro addr ⟨other, hmem, hother, rfl⟩
      rcases List.mem_cons.mp hmem with rfl | hmem
      · exact absurd hother hset
      · exact ⟨other, hmem, hother, rfl⟩

/-- An attempt reads the heartbeat, which is one of the listed words, on both sides of the rest. -/
theorem wp_attempt (hbeat : map TT_TAG_TIMER_HEARTBEAT ≠ unset) :
    Procedure.wp (Aperture.contract arch memory undisturbed)
      (attempt (s.start + off) map table).run (fun _ res _ s' ↦
        Visits undisturbed (wordsOf (s.target + off) map telemetryTags)
          (wordsOf (s.target + off) map telemetryTags) s s' ∧
        (res = .error () → undisturbed = false)) thread s := by
  have haddr : s.address (wordAddr (s.start + off) (map TT_TAG_TIMER_HEARTBEAT)) =
      wordAddr (s.target + off) (map TT_TAG_TIMER_HEARTBEAT) := by
    rw [wordAddr, Nat.add_assoc, Aperture.address_start, wordAddr, Nat.add_assoc]
  have hmem : wordAddr (s.target + off) (map TT_TAG_TIMER_HEARTBEAT) ∈
      wordsOf (s.target + off) map telemetryTags :=
    ⟨TT_TAG_TIMER_HEARTBEAT, mem_telemetryTags.mpr (by decide), hbeat, rfl⟩
  have hread (s₁ : Aperture) : Visits undisturbed ∅ (wordsOf (s.target + off) map telemetryTags) s₁
      (s₁.logged [wordAddr (s.target + off) (map TT_TAG_TIMER_HEARTBEAT)]) :=
    visits_read.mono (Set.empty_subset _) (Set.singleton_subset_iff.mpr hmem)
  refine wp_read ?_ fun hu ↦ ⟨?_, fun _ ↦ hu⟩
  · rw [haddr]
    refine wp_guarded (wp_fillTable (s := s.logged _) telemetryTags) ?_ ?_
    · rintro _ done thread₁ s₁ ⟨hfill, -⟩
      have hvisits := (hread s).trans hfill
      have haddr₁ : s₁.address (wordAddr (s.start + off) (map TT_TAG_TIMER_HEARTBEAT)) =
          wordAddr (s.target + off) (map TT_TAG_TIMER_HEARTBEAT) := by
        rw [Aperture.address, hvisits.same_window.1, hvisits.same_window.2]
        exact haddr
      refine wp_read ⟨?_, by simp⟩ fun hu ↦ ⟨?_, fun _ ↦ hu⟩
      · rw [haddr₁]
        exact (hvisits.trans (hread s₁)).mono (fun _ h ↦ .inl (.inr h)) subset_rfl
      · rw [haddr₁]
        exact (hvisits.trans (hread s₁)).cut hu
    · rintro _ thread₁ s₁ ⟨hfill, hfault⟩
      exact ⟨((hread s).trans hfill).cut (hfault rfl), fun _ ↦ hfault rfl⟩
  · rw [haddr]
    exact (hread s).cut hu

/-- Every attempt reads the same words, so the first one reads all of them. -/
theorem wp_attemptSnapshot (tries : ℕ) :
    Procedure.wp (Aperture.contract arch memory undisturbed)
      (attemptSnapshot (s.start + off) map table tries).run (fun _ res _ s' ↦
        Visits undisturbed { addr ∈ wordsOf (s.target + off) map telemetryTags | tries ≠ 0 }
          (wordsOf (s.target + off) map telemetryTags) s s' ∧
        (res = .error () → undisturbed = false)) thread s := by
  by_cases hbeat : map TT_TAG_TIMER_HEARTBEAT ≠ unset
  · induction tries generalizing thread s with
    | zero => exact ⟨visits_none.mono (fun _ hmem ↦ hmem.2 rfl) subset_rfl, nofun⟩
    | succ tries ih =>
      rw [attemptSnapshot_eq hbeat]
      refine wp_guarded (wp_attempt hbeat) ?_ ?_
      · rintro _ stable thread₁ s₁ ⟨hvisits, -⟩
        cases stable with
        | true => exact ⟨hvisits.mono (fun _ hmem ↦ hmem.1) subset_rfl, nofun⟩
        | false =>
          rw [if_neg Bool.false_ne_true, wp_guarded_modify]
          obtain ⟨hstart, htarget⟩ := hvisits.same_window
          rw [← hstart]
          refine Procedure.wp_mono ih fun _ res _ s' hrest ↦ ?_
          rw [htarget] at hrest
          exact ⟨(hvisits.trans hrest.1).mono (fun _ hmem ↦ .inl hmem.1) subset_rfl, hrest.2⟩
      · rintro _ thread₁ s₁ ⟨hvisits, hfault⟩
        exact ⟨hvisits.cut (hfault rfl), fun _ ↦ hfault rfl⟩
  · cases tries with
    | zero => exact ⟨visits_none.mono (fun _ hmem ↦ hmem.2 rfl) subset_rfl, nofun⟩
    | succ tries =>
      rw [attemptSnapshot, if_neg hbeat]
      refine wp_guarded (wp_fillTable telemetryTags) ?_ ?_
      · rintro _ done thread₁ s₁ ⟨hvisits, -⟩
        exact ⟨hvisits.mono (fun _ hmem ↦ hmem.1) subset_rfl, nofun⟩
      · rintro _ thread₁ s₁ ⟨hvisits, hfault⟩
        exact ⟨hvisits.cut (hfault rfl), fun _ ↦ hfault rfl⟩

/-- The entries are read in order, up to one whose tag is repeated. -/
theorem wp_readEntries {first : ℕ} (number : ℕ) (hlog : s.log.length = 3 + first) :
    Procedure.wp (Aperture.contract arch memory undisturbed)
      (readEntries (s.start + off) (List.range' first number) map).run (fun _ res _ s' ↦
        Visits undisturbed (entriesOf memory (s.target + off) map first number)
          (entriesOf memory (s.target + off) map first number) s s' ∧
        (res = .error () → undisturbed = false) ∧
        ∀ out, res = .ok out →
          out = recordEntries (entryWords memory (s.target + off) first number) map) thread s := by
  induction number generalizing first map thread s with
  | zero =>
    have hnone : entriesOf memory (s.target + off) map first 0 = ∅ := by
      ext addr
      simp [entriesOf]
    rw [hnone]
    exact ⟨visits_none, by simp, fun out hres ↦ (Except.ok.inj hres).symm⟩
  | succ number ih =>
    have haddr : s.address (s.start + off + 4 * (2 + first)) = entryAddr (s.target + off) first := by
      rw [Nat.add_assoc, Aperture.address_start, entryAddr, Nat.add_assoc]
    have hread : Visits undisturbed {entryAddr (s.target + off) first}
        (entriesOf memory (s.target + off) map first (number + 1)) s
        (s.logged [entryAddr (s.target + off) first]) :=
      visits_read.mono subset_rfl (Set.singleton_subset_iff.mpr (mem_entriesOf_succ.mpr (.inl rfl)))
    rw [List.range'_succ, entryWords_succ, recordEntries]
    refine wp_read ?_ fun hu ↦ ⟨?_, fun _ ↦ hu, by simp⟩
    · have hword : memory (3 + first) (entryAddr (s.target + off) first) =
          entryWord memory (s.target + off) first := rfl
      rw [haddr, hlog, hword]
      cases hentry : recordEntry map (entryWord memory (s.target + off) first) with
      | none =>
        refine ⟨hread.mono ?_ subset_rfl, by simp, fun out hres ↦ (Except.ok.inj hres).symm⟩
        intro addr hmem
        rcases mem_entriesOf_succ.mp hmem with rfl | ⟨map', hmap', -⟩
        · rfl
        · cases hentry.symm.trans hmap'
      | some map₁ =>
        have hlog₁ : (s.logged [entryAddr (s.target + off) first]).log.length = 3 + (first + 1) := by
          rw [Aperture.logged_log, List.length_append, hlog]
          rfl
        refine Procedure.wp_mono (ih hlog₁) fun _ res _ s' hrest ↦ ?_
        obtain ⟨hvisits, hfault, hout⟩ := hrest
        have htail : entriesOf memory (s.target + off) map₁ (first + 1) number ⊆
            entriesOf memory (s.target + off) map first (number + 1) :=
          fun addr hmem ↦ mem_entriesOf_succ.mpr (.inr ⟨map₁, hentry, hmem⟩)
        refine ⟨(hread.trans (hvisits.mono subset_rfl htail)).mono ?_ subset_rfl, hfault, hout⟩
        intro addr hmem
        rcases mem_entriesOf_succ.mp hmem with rfl | ⟨map', hmap', hmem⟩
        · exact .inl rfl
        · obtain rfl := Option.some.inj (hentry.symm.trans hmap')
          exact .inr hmem
    · rw [haddr]
      exact hread.cut hu

/-- A snapshot visits what the content requires. -/
theorem wp_snapshot {tagsOff dataOff : ℕ} (hlog : s.log.length = 2) :
    Procedure.wp (Aperture.contract arch memory undisturbed)
      (snapshot (s.start + tagsOff) (s.start + dataOff) table).run (fun _ res _ s' ↦
        Visits undisturbed (required memory (s.target + tagsOff) (s.target + dataOff))
          (required memory (s.target + tagsOff) (s.target + dataOff)) s s' ∧
        (res = .error () → undisturbed = false)) thread s := by
  have haddr : s.address (s.start + tagsOff + 4) = s.target + tagsOff + 4 := by
    rw [Nat.add_assoc, Aperture.address_start, Nat.add_assoc]
  have hread : Visits undisturbed {s.target + tagsOff + 4}
      (required memory (s.target + tagsOff) (s.target + dataOff)) s
      (s.logged [s.target + tagsOff + 4]) :=
    visits_read.mono subset_rfl (Set.singleton_subset_iff.mpr (Set.mem_insert _ _))
  have hentries : entriesOf memory (s.target + tagsOff) (fun _ ↦ unset) 0
      (entryCount memory (s.target + tagsOff)) ⊆
      required memory (s.target + tagsOff) (s.target + dataOff) := fun _ hmem ↦ .inr (.inl hmem)
  unfold snapshot
  refine wp_read ?_ fun hu ↦ ⟨?_, fun _ ↦ hu⟩
  · rw [haddr, hlog, List.range_eq_range']
    have hlog₁ : (s.logged [s.target + tagsOff + 4]).log.length = 3 + 0 := by
      rw [Aperture.logged_log, List.length_append, hlog]
      rfl
    refine wp_guarded (wp_readEntries (s := s.logged _) _ hlog₁) ?_ ?_
    · rintro _ listed thread₁ s₁ ⟨hvisits, -, hlisted⟩
      have hlisted : listed = tagMap memory (s.target + tagsOff) := hlisted listed rfl
      have hentered := hread.trans (hvisits.mono subset_rfl hentries)
      cases listed with
      | none =>
        refine ⟨hentered.mono ?_ subset_rfl, nofun⟩
        rintro addr (rfl | hmem | ⟨map, hmap, -⟩)
        · exact .inl rfl
        · exact .inr hmem
        · cases hlisted.trans hmap
      | some map =>
        obtain ⟨hstart, htarget⟩ := hentered.same_window
        rw [← hstart]
        refine Procedure.wp_mono (wp_attemptSnapshot 3) fun _ res _ s' hrest ↦ ?_
        rw [htarget] at hrest
        have hwords : wordsOf (s.target + dataOff) map telemetryTags ⊆
            required memory (s.target + tagsOff) (s.target + dataOff) :=
          fun _ hmem ↦ .inr (.inr ⟨map, hlisted.symm, hmem⟩)
        refine ⟨(hentered.trans (hrest.1.mono subset_rfl hwords)).mono ?_ subset_rfl, hrest.2⟩
        rintro addr (rfl | hmem | ⟨map', hmap', hmem⟩)
        · exact .inl (.inl rfl)
        · exact .inl (.inr hmem)
        · obtain rfl := Option.some.inj (hlisted.trans hmap')
          exact .inr ⟨hmem, by decide⟩
    · rintro _ thread₁ s₁ ⟨hvisits, hfault, -⟩
      exact ⟨(hread.trans (hvisits.mono subset_rfl hentries)).cut (hfault rfl), fun _ ↦ hfault rfl⟩
  · rw [haddr]
    exact hread.cut hu

end Reads

/-! ## Telemetry -/

section Telemetry

variable {arch : ArchConstants} {memory : ℕ → Memory} {undisturbed : Bool} {s s' : Aperture}
  {sess : Session} {tlb : Tlb} {thread : Thread} {table : Ref} {deviceId : UInt16}

theorem wp_tlbUnconfigure :
    Procedure.wp (Aperture.contract arch memory undisturbed) (tlbUnconfigure tlb)
      (fun _ out _ s' ↦ out.1 = .TT_ERR ∧ s' = s) thread s := by
  rw [tlbUnconfigure, Procedure.wp_bind, wp_getErrno]
  split
  · rw [Procedure.wp_bind, wp_sys]
    exact ⟨trivial, fun _ _ hanswer ↦ ⟨rfl, hanswer⟩⟩
  · exact ⟨rfl, rfl⟩

/-- Binding points the window at its configured address. -/
theorem wp_tlbBind (hfd : ¬sess.fd < 0) (cfg : TlbConfig) :
    Procedure.wp (Aperture.contract arch memory undisturbed) (tlbBind sess tlb cfg)
      (fun _ out _ s' ↦ s'.log = s.log ∧ (out.1 = .TT_ERR → undisturbed = false) ∧
        (out.1 = .TT_OK () → s'.start = out.2.ptr ∧ s'.target = cfg.addr.toNat)) thread s := by
  rw [tlbBind, if_neg hfd]
  simp only [Procedure.wp_bind, wp_sys]
  refine ⟨trivial, fun reply s₁ hanswer ↦ ?_⟩
  cases reply with
  | fail err =>
    obtain ⟨hu, rfl⟩ := hanswer
    simp only [Procedure.wp_bind, wp_ttFailIo]
    refine Procedure.wp_mono wp_tlbUnconfigure fun _ out _ s₂ hclear ↦ ?_
    obtain ⟨hout, rfl⟩ := hclear
    exact ⟨rfl, fun _ ↦ hu, by simp [hout]⟩
  | ok start residue =>
    obtain rfl : s₁ = { s with start := start } := hanswer
    simp only [Procedure.wp_bind, wp_sys]
    refine ⟨trivial, fun reply s₂ hanswer ↦ ?_⟩
    cases reply with
    | fail err =>
      obtain ⟨hu, target, rfl⟩ := hanswer
      simp only [Procedure.wp_bind, wp_sys, wp_ttFailIo]
      refine ⟨trivial, fun _ s₃ hanswer ↦ ?_⟩
      obtain rfl : s₃ = { start := start, target := target, log := s.log } := hanswer
      refine Procedure.wp_mono wp_tlbUnconfigure fun _ out _ s₄ hclear ↦ ?_
      obtain ⟨hout, rfl⟩ := hclear
      exact ⟨rfl, fun _ ↦ hu, by simp [hout]⟩
    | ok value residue =>
      obtain rfl : s₂ = { start := start, target := cfg.addr.toNat, log := s.log } := hanswer
      dsimp only
      split
      · rw [Procedure.wp_bind, wp_sys]
        refine ⟨trivial, fun _ s₃ hanswer ↦ ?_⟩
        obtain rfl : s₃ = { start := start, target := cfg.addr.toNat, log := s.log } := hanswer
        exact ⟨rfl, by simp, fun _ ↦ ⟨rfl, rfl⟩⟩
      · exact ⟨rfl, by simp, fun _ ↦ ⟨rfl, rfl⟩⟩

/-- A request that leaves the window where it is. -/
theorem keeps_still {op : Syscall} (h : ∀ s₁ answer s₂,
    Aperture.answers arch memory undisturbed op s₁ answer s₂ → s₂ = s₁) :
    Procedure.Keeps (Aperture.contract arch memory undisturbed) (· = s) (sys op) :=
  keeps_sys op (fun _ _ ↦ trivial) fun s₁ answer s₂ hs hanswer ↦ (h s₁ answer s₂ hanswer).trans hs

theorem wp_ttTrapArm (ptr len : ℕ) :
    Procedure.wp (Aperture.contract arch memory undisturbed) (ttTrapArm ptr len)
      (fun _ _ _ s' ↦ s' = s) thread s :=
  keeps_ttTrapArm (keeps_still fun _ _ _ ↦ id) ptr len thread s rfl

theorem wp_tlbFree : Procedure.wp (Aperture.contract arch memory undisturbed) (tlbFree sess tlb)
    (fun _ _ _ s' ↦ s' = s) thread s :=
  keeps_tlbFree (fun _ ↦ keeps_still fun _ _ _ ↦ id) (keeps_still fun _ _ _ ↦ id) thread s rfl

theorem wp_tlbAlloc (hfd : ¬sess.fd < 0) (size : ℕ) :
    Procedure.wp (Aperture.contract arch memory undisturbed) (tlbAlloc sess size TT_TLB_UC tlb)
      (fun _ out _ s' ↦ s' = s ∧ (out.1 = .TT_ERR → undisturbed = false)) thread s := by
  rw [tlbAlloc, if_neg hfd]
  simp only [Procedure.wp_bind, wp_sys]
  refine ⟨trivial, fun reply s₁ hanswer ↦ ?_⟩
  cases reply with
  | fail err => exact ⟨hanswer.2, fun _ ↦ hanswer.1⟩
  | ok out residue => exact ⟨hanswer, by simp⟩

theorem wp_devInfo (hfd : ¬sess.fd < 0) :
    Procedure.wp (Aperture.contract arch memory undisturbed) (devInfo sess) (fun _ info _ s' ↦
      s' = s ∧ (info = .TT_ERR → undisturbed = false) ∧
        ∀ out, info = .TT_OK out → archConstants out.deviceId = some arch) thread s := by
  rw [devInfo, if_neg hfd]
  simp only [Procedure.wp_bind, wp_sys]
  refine ⟨trivial, fun reply s₁ hanswer ↦ ?_⟩
  cases reply with
  | fail err => exact ⟨hanswer.2, fun _ ↦ hanswer.1, by simp⟩
  | ok info residue =>
    refine ⟨hanswer.2, by simp, fun out hout ↦ ?_⟩
    obtain rfl : info = out := Result.TT_OK.inj hout
    exact hanswer.1

/-- The window at the registers shows both pointers. -/
theorem registers_shown (harch : archConstants deviceId = some arch) :
    (apbConfig arch).addr.toNat + windowOffset arch.telemTags = arch.telemTags.toNat ∧
      (apbConfig arch).addr.toNat + windowOffset arch.telemData = arch.telemData.toNat := by
  rcases archConstants_cases harch with rfl | rfl
  · decide
  · decide

/-- The window at shared memory shows what a valid pointer points at. -/
theorem shared_shown (arch : ArchConstants) {value : UInt32} (h : validPointer value = true) :
    CSM_BASE.toNat ≤ value.toNat ∧
      (csmConfig arch).addr.toNat + windowOffset value = value.toNat :=
  ⟨(validPointer_iff.mp h).1, base_add_windowOffset h⟩

/-- The two registers are read first. -/
theorem wp_readPointers (harch : archConstants deviceId = some arch)
    (htarget : s.target = (apbConfig arch).addr.toNat) (hlog : s.log = []) :
    Procedure.wp (Aperture.contract arch memory undisturbed) (readPointers s.start arch).run
      (fun _ res _ s' ↦ s'.log.length ≤ 2 ∧ (res = .error () → undisturbed = false) ∧
        ∀ tags data, res = .ok (tags, data) → tags = tagsPointer arch memory ∧
          data = dataPointer arch memory ∧ s'.log.length = 2) thread s := by
  obtain ⟨htags, hdata⟩ := registers_shown harch
  rw [← htarget] at htags hdata
  refine wp_read ?_ fun hu ↦ ⟨?_, fun _ ↦ hu, nofun⟩
  · refine wp_read ⟨?_, nofun, fun tags data hres ↦ ?_⟩ fun hu ↦ ⟨?_, fun _ ↦ hu, nofun⟩
    · simp [hlog]
    · obtain ⟨rfl, rfl⟩ := Prod.mk.inj (Except.ok.inj hres)
      have hsecond : (s.logged [s.address (s.start + windowOffset arch.telemTags)]).address
          (s.start + windowOffset arch.telemData) = arch.telemData.toNat := by
        rw [Aperture.address, Aperture.logged_start, Aperture.logged_target, ← hdata]
        omega
      refine ⟨?_, ?_, by simp [hlog]⟩
      · rw [Aperture.address_start, htags, hlog]
        rfl
      · rw [hsecond, Aperture.logged_log, hlog]
        rfl
    · simp [hlog]
  · simp [hlog]

/-- What telemetry reads after the pointers, and what it reports of pointers it rejects. -/
structure Follows (arch : ArchConstants) (memory : ℕ → Memory) (undisturbed : Bool)
    (log : List ℕ) (status : Status) (errno : Errno) : Prop where
  only : ∀ addr ∈ log.drop 2, Valid arch memory ∧
    addr ∈ required memory (tagsPointer arch memory).toNat (dataPointer arch memory).toNat
  all : undisturbed = true → Valid arch memory →
    ∀ addr ∈ required memory (tagsPointer arch memory).toNat (dataPointer arch memory).toNat,
      addr ∈ log.drop 2
  refused : undisturbed = true → ¬Valid arch memory → status = .TT_ERR ∧ errno = Errno.EIO

/-- A disturbed call that ended before the snapshot. -/
theorem follows_cut {log : List ℕ} {status : Status} {errno : Errno} (hlog : log.length ≤ 2)
    (hu : undisturbed = false) : Follows arch memory undisturbed log status errno where
  only := by simp [List.drop_of_length_le hlog]
  all hu' := nomatch hu.symm.trans hu'
  refused hu' := nomatch hu.symm.trans hu'

theorem wp_readSnapshot {tags data : UInt32} (hfd : ¬sess.fd < 0) (hlog : s.log.length = 2)
    (htags : tags = tagsPointer arch memory) (hdata : data = dataPointer arch memory)
    (hvalid : Valid arch memory) :
    Procedure.wp (Aperture.contract arch memory undisturbed)
      (readSnapshot sess arch tlb tags data table) (fun _ out thread' s' ↦
        Follows arch memory undisturbed s'.log out.1 thread'.errno) thread s := by
  subst htags hdata
  obtain ⟨-, htagsShown⟩ := shared_shown arch hvalid.1
  obtain ⟨-, hdataShown⟩ := shared_shown arch hvalid.2
  refine Procedure.wp_call (wp_tlbBind hfd _) fun _ out thread₁ s₁ hbind ↦ ?_
  obtain ⟨status, tlb₁⟩ := out
  obtain ⟨hlog₁, hfail, hbound⟩ := hbind
  rw [← hlog₁] at hlog
  cases status with
  | TT_ERR => exact follows_cut hlog.le (hfail rfl)
  | TT_OK done =>
    obtain ⟨hstart, htarget⟩ := hbound rfl
    refine Procedure.wp_call (wp_ttTrapArm tlb₁.ptr TT_TLB_2MB) fun _ _ thread₂ s₂ harm ↦ ?_
    subst harm
    dsimp only at hstart ⊢
    rw [← hstart]
    refine Procedure.wp_call (wp_snapshot hlog) fun _ res thread₃ s₃ hsnapshot ↦ ?_
    rw [htarget, htagsShown, hdataShown] at hsnapshot
    obtain ⟨⟨addrs, rfl, honly, hall⟩, -⟩ := hsnapshot
    have hdrop : (s₂.logged addrs).log.drop 2 = addrs := by
      rw [Aperture.logged_log, ← hlog, List.drop_left]
    have hfollows (status : Status) (errno : Errno) :
        Follows arch memory undisturbed (s₂.logged addrs).log status errno := by
      refine ⟨?_, ?_, fun _ hinvalid ↦ absurd hvalid hinvalid⟩
      · rw [hdrop]
        exact fun addr hmem ↦ ⟨hvalid, honly addr hmem⟩
      · rw [hdrop]
        exact fun hu _ ↦ hall hu
    cases res with
    | error fault => exact hfollows _ _
    | ok status => exact hfollows _ _

theorem wp_readWindow (hfd : ¬sess.fd < 0) (harch : archConstants deviceId = some arch)
    (hlog : s.log = []) :
    Procedure.wp (Aperture.contract arch memory undisturbed) (readWindow sess arch tlb table)
      (fun _ out thread' s' ↦ Follows arch memory undisturbed s'.log out.1 thread'.errno)
      thread s := by
  refine Procedure.wp_call (wp_tlbBind hfd _) fun _ out thread₁ s₁ hbind ↦ ?_
  obtain ⟨status, tlb₁⟩ := out
  obtain ⟨hlog₁, hfail, hbound⟩ := hbind
  rw [← hlog₁] at hlog
  cases status with
  | TT_ERR => exact follows_cut (by simp [hlog]) (hfail rfl)
  | TT_OK done =>
    obtain ⟨hstart, htarget⟩ := hbound rfl
    refine Procedure.wp_call (wp_ttTrapArm tlb₁.ptr TT_TLB_2MB) fun _ _ thread₂ s₂ harm ↦ ?_
    subst harm
    dsimp only at hstart ⊢
    rw [← hstart]
    refine Procedure.wp_call (wp_readPointers harch htarget hlog) fun _ res thread₃ s₃ hpointers ↦ ?_
    obtain ⟨hlength, hfault, hread⟩ := hpointers
    cases res with
    | error fault => exact follows_cut hlength (hfault rfl)
    | ok pointers =>
      obtain ⟨htags, hdata, hlog₃⟩ := hread pointers.1 pointers.2 rfl
      dsimp only
      split
      · rename_i hboth
        have hvalid : Valid arch memory := by
          rw [Valid, ← htags, ← hdata]
          exact Bool.and_eq_true_iff.mp hboth
        rw [ttTrapDisarm, Procedure.wp_bind, Procedure.wp_modify]
        exact wp_readSnapshot hfd hlog₃ htags hdata hvalid
      · rename_i hboth
        have hinvalid : ¬Valid arch memory := by
          rw [Valid, ← htags, ← hdata]
          exact fun hvalid ↦ hboth (Bool.and_eq_true_iff.mpr hvalid)
        have hdrop : s₃.log.drop 2 = [] := List.drop_of_length_le hlog₃.le
        refine ⟨?_, fun _ hvalid ↦ absurd hvalid hinvalid, fun _ _ ↦ ⟨rfl, rfl⟩⟩
        rw [hdrop]
        exact fun _ hmem ↦ absurd hmem List.not_mem_nil

theorem wp_telemetry (hfd : ¬sess.fd < 0) (hlog : s.log = []) :
    Procedure.wp (Aperture.contract arch memory undisturbed) (telemetry sess table)
      (fun _ status thread' s' ↦ Follows arch memory undisturbed s'.log status thread'.errno)
      thread s := by
  rw [telemetry, if_neg hfd]
  refine Procedure.wp_call (wp_devInfo hfd) fun _ info thread₁ s₁ hasked ↦ ?_
  obtain ⟨rfl, hfail, hinfo⟩ := hasked
  cases info with
  | TT_ERR => exact follows_cut (by simp [hlog]) (hfail rfl)
  | TT_OK info =>
    have harch := hinfo info rfl
    simp only [harch]
    rw [Procedure.wp_bind, Procedure.wp_modify]
    refine Procedure.wp_call (wp_tlbAlloc hfd TT_TLB_2MB) fun _ out thread₂ s₂ halloc ↦ ?_
    obtain ⟨status, tlb₂⟩ := out
    obtain ⟨rfl, hfail⟩ := halloc
    cases status with
    | TT_ERR => exact follows_cut (by simp [hlog]) (hfail rfl)
    | TT_OK done =>
      refine Procedure.wp_call (wp_readWindow hfd harch hlog) fun _ out thread₃ s₃ hread ↦ ?_
      obtain ⟨status, tlb₃⟩ := out
      cases status with
      | TT_OK done =>
        rw [ttTrapDisarm, Procedure.wp_bind, Procedure.wp_modify]
        refine Procedure.wp_call wp_tlbFree fun _ _ thread₄ s₄ hfree ↦ ?_
        subst hfree
        exact ⟨hread.only, hread.all, fun hu hinvalid ↦ nomatch (hread.refused hu hinvalid).1⟩
      | TT_ERR =>
        simp only [Procedure.wp_bind, wp_getErrno, ttTrapDisarm, Procedure.wp_modify]
        refine Procedure.wp_mono wp_tlbFree fun _ _ thread₄ s₄ hfree ↦ ?_
        subst hfree
        exact hread

theorem wp_ttTelemetry_opened (hfd : 0 ≤ sess.fd) (hlog : s.log = []) (table : Ref) :
    Procedure.wp (Aperture.contract arch memory undisturbed) (ttTelemetry (some sess) (some table))
      (fun _ status thread' s' ↦ Follows arch memory undisturbed s'.log status thread'.errno)
      thread s :=
  wp_telemetry (not_lt.mpr hfd) hlog

/-- Where what is behind valid pointers is contained, what is visited is shared memory. -/
theorem Follows.shared {log : List ℕ} {status : Status} {errno : Errno}
    (h : Follows arch memory undisturbed log status errno)
    (hsound : Valid arch memory → Sound arch memory) : ∀ addr ∈ log.drop 2, Shared addr := by
  intro addr hmem
  obtain ⟨hvalid, hrequired⟩ := h.only addr hmem
  have htags := (shared_shown arch hvalid.1).1
  have hdata := (shared_shown arch hvalid.2).1
  exact (required_shared_iff htags hdata).mpr (hsound hvalid) addr hrequired

/-- What telemetry reads after the pointers is shared memory, and what it cannot read so is
reported as malformed, exactly when what is behind valid pointers is contained. Contained content
is never left, also when a call fails or a read faults. -/
theorem telemetry_reads_shared_iff (hlog : s.log = []) :
    (∀ undisturbed sess table trace status thread' s', Procedure.Executes
        (Aperture.contract arch memory undisturbed) (ttTelemetry sess table) thread s trace status
        thread' s' →
      (Valid arch memory → Sound arch memory) → ∀ addr ∈ s'.log.drop 2, Shared addr) ∧
    ∀ (sess : Session) table trace status thread' s', 0 ≤ sess.fd → Procedure.Executes
        (Aperture.contract arch memory true) (ttTelemetry (some sess) (some table)) thread s trace
        status thread' s' →
      ((∀ addr ∈ s'.log.drop 2, Shared addr) ∧
          (¬(Valid arch memory ∧ Sound arch memory) →
            status = .TT_ERR ∧ thread'.errno = Errno.EIO) ↔
        (Valid arch memory → Sound arch memory)) := by
  constructor
  · intro undisturbed sess table trace status thread' s' hrun hsound
    have hwp : Procedure.wp (Aperture.contract arch memory undisturbed) (ttTelemetry sess table)
        (fun _ _ _ s' ↦ ∀ addr ∈ s'.log.drop 2, Shared addr) thread s := by
      have hnothing : ∀ addr ∈ s.log.drop 2, Shared addr := by simp [hlog]
      cases sess with
      | none => exact hnothing
      | some sess =>
        cases table with
        | none => exact hnothing
        | some table =>
          by_cases hfd : sess.fd < 0
          · change Procedure.wp _ (telemetry sess table) _ _ _
            rw [telemetry, if_pos hfd]
            exact hnothing
          · exact Procedure.wp_mono (wp_telemetry hfd hlog) fun _ _ _ _ hfollows ↦
              hfollows.shared hsound
    exact hrun.ensures hwp
  · intro sess table trace status thread' s' hfd hrun
    have hfollows := hrun.ensures (wp_ttTelemetry_opened hfd hlog table)
    constructor
    · rintro ⟨hshared, -⟩ hvalid
      have htags := (shared_shown arch hvalid.1).1
      have hdata := (shared_shown arch hvalid.2).1
      refine (required_shared_iff htags hdata).mp fun addr hrequired ↦ ?_
      exact hshared addr (hfollows.all rfl hvalid addr hrequired)
    · intro hsound
      refine ⟨hfollows.shared hsound, fun hnot ↦ hfollows.refused rfl fun hvalid ↦ ?_⟩
      exact hnot ⟨hvalid, hsound hvalid⟩

end Telemetry

/-! ## A table at either end of shared memory -/

/-- The first pointer, a data word for the second, and a table of two entries: the heartbeat, whose
word is the first, and the tag 1, whose word is the sixth. -/
def sampleMemory (tags : UInt32) : ℕ → Memory := fun _ addr ↦
  if addr = wormhole.telemTags.toNat then tags
  else if addr = wormhole.telemData.toNat then 0x10000100
  else if addr = tags.toNat + 4 then 2
  else if addr = entryAddr tags.toNat 0 then 0x00000020
  else if addr = entryAddr tags.toNat 1 then 0x00050001
  else 0

def sampleAperture : Aperture := { start := 0, target := 0, log := [] }

/-- An undisturbed device answers every call, so the call returns. -/
theorem sampleMemory_runs (tags : UInt32) : ∃ trace status thread' s',
    Procedure.Executes (Aperture.contract wormhole (sampleMemory tags) true)
      (ttTelemetry (some sampleSession) (some 0)) Thread.initial sampleAperture trace status thread'
      s' ∧ Follows wormhole (sampleMemory tags) true s'.log status thread'.errno := by
  have harch : archConstants sampleInfo.deviceId = some wormhole := rfl
  have hwp : Procedure.wp (Aperture.contract wormhole (sampleMemory tags) true)
      (ttTelemetry (some sampleSession) (some 0)) (fun _ status thread' s' ↦
        Follows wormhole (sampleMemory tags) true s'.log status thread'.errno) Thread.initial
      sampleAperture := wp_ttTelemetry_opened (by decide) rfl 0
  exact Procedure.wp_returns (fun op s _ ↦ Aperture.contract_answered harch op s)
    (fun _ hstop ↦ nomatch hstop) hwp

/-- The count of a table that starts with the last word of shared memory is read behind its end. -/
theorem last_word_overruns : ∃ trace status thread' s',
    Procedure.Executes (Aperture.contract wormhole (sampleMemory 0x1007fffc) true)
      (ttTelemetry (some sampleSession) (some 0)) Thread.initial sampleAperture trace status thread'
      s' ∧ ∃ addr ∈ s'.log.drop 2, ¬Shared addr := by
  obtain ⟨trace, status, thread', s', hrun, hfollows⟩ := sampleMemory_runs 0x1007fffc
  have hvalid : Valid wormhole (sampleMemory 0x1007fffc) := ⟨by decide, by decide⟩
  have hend : ¬Shared ((tagsPointer wormhole (sampleMemory 0x1007fffc)).toNat + 4) := by
    unfold Shared
    decide
  exact ⟨trace, status, thread', s', hrun, _, hfollows.all rfl hvalid _ (Set.mem_insert _ _), hend⟩

/-- The table at the start of shared memory. -/
theorem first_table_words : entryCount (sampleMemory CSM_BASE) CSM_BASE.toNat = 2 ∧
    entryWords (sampleMemory CSM_BASE) CSM_BASE.toNat 0 2 = [0x00000020, 0x00050001] := by
  decide

theorem first_table_listed {map : TagMap} {tag : Fin TT_TELEMETRY_LEN} {off : UInt16}
    (hmap : tagMap (sampleMemory CSM_BASE) CSM_BASE.toNat = some map) (hzero : (tag : ℕ) ≠ 0)
    (hoff : off ≠ unset) : map tag = off ↔ (32 : ℕ) = tag ∧ 0 = off ∨ (1 : ℕ) = tag ∧ 5 = off := by
  rw [tagMap, first_table_words.1, first_table_words.2] at hmap
  rw [recordEntries_eq_some hmap hzero hoff, TagTable.Listed]
  simp only [List.mem_cons, List.not_mem_nil, or_false, exists_eq_or_imp, exists_eq_left]
  exact or_iff_right hoff.symm

theorem first_table_contained : Sound wormhole (sampleMemory CSM_BASE) where
  aligned := by decide
  count := by decide
  entries idx hidx _ := by
    change idx < entryCount (sampleMemory CSM_BASE) CSM_BASE.toNat at hidx
    rw [first_table_words.1] at hidx
    change CSM_BASE.toNat + 4 * (3 + idx) ≤ CSM_BASE.toNat + CSM_SIZE.toNat
    have hsize : CSM_SIZE.toNat = 0x80000 := rfl
    omega
  words map hmap tag hzero hset := by
    refine ⟨by decide, ?_⟩
    rcases (first_table_listed hmap hzero hset).mp rfl with ⟨-, hoff⟩ | ⟨-, hoff⟩
    · rw [← hoff]
      decide
    · rw [← hoff]
      decide

/-- The word of the second tag is read, and nothing outside shared memory. -/
theorem first_table_read : ∃ trace status thread' s',
    Procedure.Executes (Aperture.contract wormhole (sampleMemory CSM_BASE) true)
      (ttTelemetry (some sampleSession) (some 0)) Thread.initial sampleAperture trace status thread'
      s' ∧ 0x10000114 ∈ s'.log.drop 2 ∧ ∀ addr ∈ s'.log.drop 2, Shared addr := by
  obtain ⟨trace, status, thread', s', hrun, hfollows⟩ := sampleMemory_runs CSM_BASE
  have hlog : sampleAperture.log = [] := rfl
  have hiff := (telemetry_reads_shared_iff hlog).2 _ _ _ _ _ _ (by decide) hrun
  have hvalid : Valid wormhole (sampleMemory CSM_BASE) := ⟨by decide, by decide⟩
  obtain ⟨map, hmap⟩ : ∃ map, tagMap (sampleMemory CSM_BASE) CSM_BASE.toNat = some map := ⟨_, rfl⟩
  have hoff : map sampleTag = 5 :=
    (first_table_listed hmap (by decide) (by decide)).mpr (.inr ⟨rfl, rfl⟩)
  have hword : 0x10000114 ∈ required (sampleMemory CSM_BASE) CSM_BASE.toNat 0x10000100 := by
    refine .inr (.inr ⟨map, hmap, sampleTag, mem_telemetryTags.mpr (by decide), ?_, ?_⟩)
    · rw [hoff]
      decide
    · rw [hoff]
      rfl
  exact ⟨trace, status, thread', s', hrun, hfollows.all rfl hvalid _ hword,
    (hiff.mpr fun _ ↦ first_table_contained).1⟩

end TtDal.Safety.TelemetryReads
