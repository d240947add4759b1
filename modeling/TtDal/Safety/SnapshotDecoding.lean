import TtDal.Driver.Firmware
import TtDal.Safety.TagTable

/-!
# What a snapshot of a memory at rest holds

While the memory does not change, a snapshot is a function of it. It fails when a tag is listed
again after an offset was recorded for it. Otherwise every tag has the word at the offset recorded
for it, or zero. An entry whose offset is the sentinel of unset tags records none, so its tag may be
listed again behind it, but it is itself a repetition when its tag has an offset already.
-/

namespace TtDal.Safety.SnapshotDecoding

open Effect Platform Dev Driver

open TagTable

/-! ## Tag tables that list a tag again -/

/-- A tag in range whose offset was recorded is listed again by a later entry. -/
def Repeats (entries : List UInt32) : Prop :=
  ∃ (first second : ℕ) (hlt : first < second) (hlen : second < entries.length),
    InRange entries[first] ∧ entryOffset entries[first] ≠ unset ∧
      entryTag entries[second] = entryTag entries[first]

/-- No entry is repeated by the other. -/
def Spares (first second : UInt32) : Prop :=
  InRange first → entryOffset first ≠ unset → entryTag second ≠ entryTag first

theorem not_repeats_iff {entries : List UInt32} :
    ¬Repeats entries ↔ entries.Pairwise Spares := by
  rw [List.pairwise_iff_getElem]
  unfold Repeats Spares
  constructor
  · intro h first second hfirst hsecond hlt hrange hoff htag
    exact h ⟨first, second, hlt, hsecond, hrange, hoff, htag⟩
  · rintro h ⟨first, second, hlt, hsecond, hrange, hoff, htag⟩
    exact h first second (hlt.trans hsecond) hsecond hlt hrange hoff htag

/-- The entry's tag has an offset in the map. -/
def Taken (map : TagMap) (entry : UInt32) : Prop :=
  ∃ tag : Fin TT_TELEMETRY_LEN, (tag : ℕ) ≠ 0 ∧ entryTag entry = tag ∧ map tag ≠ unset

section Entries

variable {entries : List UInt32} {entry : UInt32} {map : TagMap}

theorem Taken.inRange (h : Taken map entry) : InRange entry := by
  obtain ⟨tag, hzero, htag, -⟩ := h
  unfold InRange
  rw [htag]
  exact ⟨hzero, tag.isLt⟩

theorem recordEntry_eq_none : recordEntry map entry = none ↔ Taken map entry := by
  by_cases hrange : InRange entry
  · have hrecorded : recordEntry map entry = if map ⟨entryTag entry, hrange.2⟩ ≠ unset then none
        else some (Function.update map ⟨entryTag entry, hrange.2⟩ (entryOffset entry)) :=
      recordEntry_of_eq hrange.1 rfl
    rw [hrecorded]
    constructor
    · intro h
      split at h
      · rename_i hset
        exact ⟨_, hrange.1, rfl, hset⟩
      · cases h
    · rintro ⟨tag, hzero, htag, hset⟩
      have heq : (⟨entryTag entry, hrange.2⟩ : Fin TT_TELEMETRY_LEN) = tag := Fin.ext htag
      rw [heq, if_pos hset]
  · rw [recordEntry_of_not_inRange hrange]
    constructor
    · exact nofun
    · exact fun h ↦ absurd h.inRange hrange

/-- What is taken once an entry was recorded. -/
theorem taken_recorded {map' : TagMap} {other : UInt32} (h : recordEntry map entry = some map') :
    Taken map' other ↔ Taken map other ∨ ¬Spares entry other := by
  have hset : ∀ tag : Fin TT_TELEMETRY_LEN, (tag : ℕ) ≠ 0 → (map' tag ≠ unset ↔
      map tag ≠ unset ∨ entryTag entry = tag ∧ entryOffset entry ≠ unset) := by
    intro tag hzero
    constructor
    · intro hne
      rcases (recordEntry_eq_some h hzero hne).mp rfl with hmap | ⟨htag, hoff⟩
      · exact .inl (hmap ▸ hne)
      · exact .inr ⟨htag, hoff ▸ hne⟩
    · rintro (hne | ⟨htag, hne⟩)
      · rwa [(recordEntry_eq_some h hzero hne).mpr (.inl rfl)]
      · rwa [(recordEntry_eq_some h hzero hne).mpr (.inr ⟨htag, rfl⟩)]
  constructor
  · rintro ⟨tag, hzero, htag, hne⟩
    rcases (hset tag hzero).mp hne with hmap | ⟨htag', hoff⟩
    · exact .inl ⟨tag, hzero, htag, hmap⟩
    · right
      intro hspares
      have hrange : InRange entry := ⟨htag' ▸ hzero, htag' ▸ tag.isLt⟩
      exact hspares hrange hoff (htag.trans htag'.symm)
  · rintro (⟨tag, hzero, htag, hne⟩ | hspares)
    · exact ⟨tag, hzero, htag, (hset tag hzero).mpr (.inl hne)⟩
    · obtain ⟨hrange, hspares⟩ := Classical.not_imp.mp hspares
      obtain ⟨hoff, htag⟩ := Classical.not_imp.mp hspares
      refine ⟨⟨entryTag entry, hrange.2⟩, hrange.1, not_not.mp htag, ?_⟩
      exact (hset ⟨entryTag entry, hrange.2⟩ hrange.1).mpr (.inr ⟨rfl, hoff⟩)

/-- Recording fails exactly when an entry is taken or repeats another. -/
theorem recordEntries_eq_none : recordEntries entries map = none ↔
    (∃ entry ∈ entries, Taken map entry) ∨ ¬entries.Pairwise Spares := by
  induction entries generalizing map with
  | nil => simp [recordEntries]
  | cons entry rest ih =>
    rw [recordEntries, List.pairwise_cons]
    cases hentry : recordEntry map entry with
    | none =>
      have htaken := recordEntry_eq_none.mp hentry
      simp [htaken]
    | some map' =>
      have hfree : ¬Taken map entry := fun h ↦ by
        rw [recordEntry_eq_none.mpr h] at hentry
        cases hentry
      rw [Option.bind_some, ih]
      simp only [taken_recorded hentry, List.mem_cons, exists_eq_or_imp, hfree, false_or]
      constructor
      · rintro (⟨other, hmem, htaken | hspares⟩ | hpairwise)
        · exact .inl ⟨other, hmem, htaken⟩
        · exact .inr fun h ↦ hspares (h.1 other hmem)
        · exact .inr fun h ↦ hpairwise h.2
      · rintro (⟨other, hmem, htaken⟩ | hnot)
        · exact .inl ⟨other, hmem, .inl htaken⟩
        · by_cases hpairwise : rest.Pairwise Spares
          · obtain ⟨other, hother⟩ := not_forall.mp fun h ↦ hnot ⟨h, hpairwise⟩
            obtain ⟨hmem, hspares⟩ := Classical.not_imp.mp hother
            exact .inl ⟨other, hmem, .inr hspares⟩
          · exact .inr hpairwise

end Entries

/-! ## Reading -/

section Reads

variable {memory : Memory} {thread : Thread} {tbl data : ℕ} {map : TagMap} {table : Ref}

theorem wp_read (addr : ℕ) : Procedure.wp memory.contract (deref addr).run
    (fun _ res thread' _ ↦ res = .ok (memory addr) ∧ thread' = thread) thread () := by
  rw [wp_deref]
  refine ⟨trivial, fun answer _ hanswer ↦ ?_⟩
  obtain rfl : answer = some (memory addr) := hanswer
  exact ⟨rfl, rfl⟩

/-- The rule for a read. -/
theorem wp_read_bind {α : Type} {addr : ℕ} {f : UInt32 → Guarded α}
    {post : Except Unit α → Thread → Prop}
    (h : Procedure.wp memory.contract (f (memory addr)).run (fun _ res thread' _ ↦
      post res thread') thread ()) :
    Procedure.wp memory.contract (deref addr >>= f).run (fun _ res thread' _ ↦ post res thread')
      thread () := by
  refine wp_guarded (wp_read addr) ?_ ?_
  · rintro _ word thread' _ ⟨heq, rfl⟩
    cases heq
    exact h
  · rintro _ thread' _ ⟨heq, -⟩
    cases heq

theorem wp_readEntries (idxs : List ℕ) (map : TagMap) :
    Procedure.wp memory.contract (readEntries tbl idxs map).run (fun _ res thread' _ ↦
      res = .ok (recordEntries (idxs.map (memory.entry tbl)) map) ∧ thread' = thread)
      thread () := by
  induction idxs generalizing map with
  | nil => exact ⟨rfl, rfl⟩
  | cons idx rest ih =>
    apply wp_read_bind
    rw [List.map_cons, recordEntries]
    cases hentry : recordEntry map (memory.entry tbl idx) with
    | none =>
      simp only [Memory.entry] at hentry
      simp only [hentry]
      exact ⟨rfl, rfl⟩
    | some map' =>
      simp only [Memory.entry] at hentry
      simp only [hentry]
      exact ih map'

/-- The table after some tags were filled in. -/
def filled (memory : Memory) (data : ℕ) (map : TagMap) (tags : List (Fin TT_TELEMETRY_LEN))
    (values : Telemetry) : Telemetry :=
  fun tag ↦ if tag ∈ tags ∧ map tag ≠ unset then memory (wordAddr data (map tag)) else values tag

theorem wp_fillTable (tags : List (Fin TT_TELEMETRY_LEN)) :
    Procedure.wp memory.contract (fillTable data map table tags).run (fun _ res thread' _ ↦
      res = .ok () ∧ thread'.tables table = filled memory data map tags (thread.tables table))
      thread () := by
  induction tags generalizing thread with
  | nil =>
    refine ⟨rfl, ?_⟩
    funext tag
    simp [filled]
  | cons tag rest ih =>
    rw [fillTable]
    by_cases hset : map tag ≠ unset
    · rw [if_pos hset]
      apply wp_read_bind
      rw [wp_guarded_modify]
      refine Procedure.wp_mono ih fun _ res thread' _ hout ↦ ⟨hout.1, ?_⟩
      rw [hout.2]
      funext tag'
      by_cases heq : tag' = tag
      · subst heq
        simp [filled, storeTag, hset]
      · simp [filled, storeTag, heq]
    · rw [if_neg hset]
      refine Procedure.wp_mono ih fun _ res thread' _ hout ↦ ⟨hout.1, ?_⟩
      rw [hout.2]
      funext tag'
      by_cases heq : tag' = tag
      · subst heq
        simp [filled, hset]
      · simp [filled, heq]

/-- The first attempt succeeds, as the heartbeat does not move. -/
theorem wp_attemptSnapshot (tries : ℕ) :
    Procedure.wp memory.contract (attemptSnapshot data map table (tries + 1)).run
      (fun _ res thread' _ ↦ res = .ok (.TT_OK ()) ∧
        thread'.tables table = filled memory data map telemetryTags (thread.tables table))
      thread () := by
  rw [attemptSnapshot]
  split
  · apply wp_read_bind
    refine wp_guarded (wp_fillTable telemetryTags) ?_ ?_
    · rintro _ _ thread' _ ⟨-, hfilled⟩
      apply wp_read_bind
      rw [if_pos rfl]
      exact ⟨rfl, hfilled⟩
    · rintro _ thread' _ ⟨heq, -⟩
      cases heq
  · refine wp_guarded (wp_fillTable telemetryTags) ?_ ?_
    · rintro _ _ thread' _ ⟨-, hfilled⟩
      exact ⟨rfl, hfilled⟩
    · rintro _ thread' _ ⟨heq, -⟩
      cases heq

theorem wp_snapshot :
    Procedure.wp memory.contract (snapshot tbl data table).run (fun _ res thread' _ ↦
      Repeats (memory.entries tbl) ∧ res = .ok .TT_ERR ∧ thread'.errno = Errno.EIO ∨
      ∃ map, recordEntries (memory.entries tbl) (fun _ ↦ unset) = some map ∧
        res = .ok (.TT_OK ()) ∧
        thread'.tables table = filled memory data map telemetryTags (thread.tables table))
      thread () := by
  unfold snapshot
  apply wp_read_bind
  refine wp_guarded (wp_readEntries _ _) ?_ ?_
  · rintro _ out thread' _ ⟨heq, rfl⟩
    have hout : out = recordEntries (memory.entries tbl) fun _ ↦ unset := Except.ok.inj heq
    cases out with
    | none =>
      left
      refine ⟨?_, rfl, rfl⟩
      rcases recordEntries_eq_none.mp hout.symm with ⟨entry, -, tag, -, -, hne⟩ | hrepeats
      · exact absurd rfl hne
      · exact not_not.mp (mt not_repeats_iff.mp hrepeats)
    | some map =>
      refine Procedure.wp_mono (wp_attemptSnapshot 2) fun _ res thread' _ hres ↦ ?_
      exact .inr ⟨map, hout.symm, hres⟩
  · rintro _ thread' _ ⟨heq, -⟩
    cases heq

end Reads

/-! ## The decoded table -/

section Runs

variable {memory : Memory} {thread : Thread} {tbl data : ℕ} {table : Ref}

/-- The result of a snapshot of a memory at rest. -/
structure Decodes (memory : Memory) (tbl data : ℕ) (res : Except Unit Status) (errno : Errno)
    (values : Telemetry) : Prop where
  fails : Repeats (memory.entries tbl) → res = .ok .TT_ERR ∧ errno = Errno.EIO
  succeeds : ¬Repeats (memory.entries tbl) → res = .ok (.TT_OK ())
  /-- A listed tag has the word at its offset. -/
  listed : ¬Repeats (memory.entries tbl) → ∀ (tag : Fin TT_TELEMETRY_LEN) (off : UInt16),
    (tag : ℕ) ≠ 0 → off ≠ unset → Listed (memory.entries tbl) tag off →
    values tag = memory (wordAddr data off)
  others : ¬Repeats (memory.entries tbl) → ∀ tag : Fin TT_TELEMETRY_LEN,
    ((tag : ℕ) ≠ 0 → ∀ off, off ≠ unset → ¬Listed (memory.entries tbl) tag off) → values tag = 0

theorem mem_telemetryTags {tag : Fin TT_TELEMETRY_LEN} : tag ∈ telemetryTags ↔ (tag : ℕ) ≠ 0 := by
  revert tag
  decide

theorem wp_decodes (hzero : thread.tables table = fun _ ↦ 0) :
    Procedure.wp memory.contract (snapshot tbl data table).run (fun _ res thread' _ ↦
      Decodes memory tbl data res thread'.errno (thread'.tables table)) thread () := by
  refine Procedure.wp_mono wp_snapshot fun _ res thread' _ hres ↦ ?_
  rcases hres with ⟨hrepeats, rfl, herrno⟩ | ⟨map, hmap, rfl, hfilled⟩
  · exact ⟨fun _ ↦ ⟨rfl, herrno⟩, fun h ↦ absurd hrepeats h, fun h ↦ absurd hrepeats h,
      fun h ↦ absurd hrepeats h⟩
  · have hspares : ¬Repeats (memory.entries tbl) := by
      rw [not_repeats_iff]
      by_contra hnot
      rw [recordEntries_eq_none.mpr (.inr hnot)] at hmap
      cases hmap
    refine ⟨fun h ↦ absurd h hspares, fun _ ↦ rfl, fun _ tag off htag hoff hlisted ↦ ?_,
      fun _ tag hnone ↦ ?_⟩
    · have heq : map tag = off := (recordEntries_eq_some hmap htag hoff).mpr (.inr hlisted)
      rw [hfilled, filled, if_pos ⟨mem_telemetryTags.mpr htag, heq ▸ hoff⟩, heq]
    · rw [hfilled, filled, if_neg, hzero]
      rintro ⟨hmem, hset⟩
      have htag := mem_telemetryTags.mp hmem
      rcases (recordEntries_eq_some hmap htag hset).mp rfl with hunset | hlisted
      · exact hset hunset.symm
      · exact hnone htag (map tag) hset hlisted

/-- Guarded code that never faults and stops nowhere returns. -/
theorem exists_run {α : Type} {code : Guarded α} {post : Except Unit α → Thread → Prop}
    (h : Procedure.wp memory.contract code.run (fun _ res thread' _ ↦ post res thread') thread ()) :
    ∃ trace res thread', Procedure.Executes memory.contract code.run thread () trace res thread' () ∧
      post res thread' := by
  have hanswered : ∀ op v, memory.contract.permits op v →
      ∃ answer v', memory.contract.answers op v answer v' := by
    intro op v _
    obtain ⟨answer, hanswer⟩ := memory.contract_answered op
    exact ⟨answer, (), hanswer⟩
  obtain ⟨trace, res, thread', _, hrun, hpost⟩ := Procedure.wp_returns hanswered (fun _ h ↦ h) h
  exact ⟨trace, res, thread', hrun, hpost⟩

/-- A snapshot of a memory at rest always returns, and fails exactly when a tag is listed again
after an offset was recorded for it. -/
theorem snapshot_decodes (hzero : thread.tables table = fun _ ↦ 0) :
    (∃ trace res thread', Procedure.Executes memory.contract (snapshot tbl data table).run thread
      () trace res thread' ()) ∧
    ∀ trace res thread', Procedure.Executes memory.contract (snapshot tbl data table).run thread
      () trace res thread' () →
      Decodes memory tbl data res thread'.errno (thread'.tables table) := by
  constructor
  · obtain ⟨trace, res, thread', hrun, -⟩ := exists_run (wp_decodes hzero)
    exact ⟨trace, res, thread', hrun⟩
  · exact fun _ _ _ hrun ↦ hrun.ensures (wp_decodes hzero)

end Runs

/-! ## Two tables -/

/-- A table of two entries at address zero, and zero everywhere else. -/
def tableOf (first second : UInt32) : Memory := fun addr ↦
  if addr = 4 then 2 else if addr = 8 then first else if addr = 12 then second else 0

theorem tableOf_entries (first second : UInt32) :
    (tableOf first second).entries 0 = [first, second] := by
  rfl

/-- The first tag is listed twice, first at the offset that equals the sentinel. -/
theorem sentinel_repeated :
    (tableOf 0xffff0001 1).entries 0 = [0xffff0001, 1] ∧ InRange 0xffff0001 ∧
    entryTag 1 = entryTag 0xffff0001 ∧
    ∃ trace thread', Procedure.Executes (tableOf 0xffff0001 1).contract (snapshot 0 4096 0).run
      Thread.initial () trace (.ok (.TT_OK ())) thread' () := by
  have hspares : ¬Repeats ((tableOf 0xffff0001 1).entries 0) := by
    have hsentinel : entryOffset 0xffff0001 = unset := by decide
    rw [not_repeats_iff, tableOf_entries]
    simp [Spares, hsentinel]
  have hzero : Thread.initial.tables 0 = fun _ ↦ 0 := rfl
  obtain ⟨trace, res, thread', hrun, hdecodes⟩ :=
    exists_run (@wp_decodes (tableOf 0xffff0001 1) Thread.initial 0 4096 0 hzero)
  obtain rfl := hdecodes.succeeds hspares
  exact ⟨tableOf_entries _ _, ⟨by decide, by decide⟩, by decide, trace, thread', hrun⟩

/-- Two tags at one offset. -/
theorem tableOf_decodes : ∃ trace res thread',
    Procedure.Executes (tableOf 1 2).contract (snapshot 0 4096 0).run Thread.initial () trace res
      thread' () ∧
    Decodes (tableOf 1 2) 0 4096 res thread'.errno (thread'.tables 0) := by
  have hzero : Thread.initial.tables 0 = fun _ ↦ 0 := rfl
  obtain ⟨⟨trace, res, thread', hrun⟩, hdecodes⟩ :=
    @snapshot_decodes (tableOf 1 2) Thread.initial 0 4096 0 hzero
  exact ⟨trace, res, thread', hrun, hdecodes trace res thread' hrun⟩

end TtDal.Safety.SnapshotDecoding
