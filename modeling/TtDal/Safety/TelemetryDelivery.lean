import TtDal.Safety.SnapshotCoherence
import TtDal.Safety.TelemetryReads

/-!
# What telemetry delivers

The firmware goes through update cycles while the two pointers, the table of tags and the words
are read, each in the cycle that is current then, and a reset may sever the window at any read.
A table that is delivered all the same is that of one cycle, at the places the firmware published.
Left to itself, the call fails only on what the firmware published, or when cycle after cycle
passed while it read.
-/

namespace TtDal.Safety.TelemetryDelivery

open Effect Platform Dev Driver TagTable TelemetryCalls

open SnapshotCoherence (attempt attemptSnapshot_eq telemetryTags_nodup)

open SnapshotDecoding (Repeats not_repeats_iff recordEntries_eq_none mem_telemetryTags)

open TelemetryReads (Valid tagsPointer dataPointer registers_shown shared_shown)

/-- What the reads find, given the cycle in which each is made. -/
def seen (firmware : Firmware) (cycles : ℕ → ℕ) : ℕ → Memory := fun read ↦
  firmware.memory (cycles read)

/-! ## Guarded code -/

/-- Only a disturbed device keeps guarded code from its end. -/
def Delivers {α : Type} (undisturbed : Bool) (post : α → Thread → Aperture → Prop) :
    Procedure.Post Sys (Except Unit α) Thread Aperture := fun _ res thread' s' ↦
  (res = .error () → undisturbed = false) ∧ ∀ value, res = .ok value → post value thread' s'

/-- The window stayed where it is, and reads may have been made through it. -/
structure Later (s s' : Aperture) : Prop where
  start : s'.start = s.start
  target : s'.target = s.target
  log : s.log.length ≤ s'.log.length

theorem Later.refl (s : Aperture) : Later s s := ⟨rfl, rfl, le_rfl⟩

theorem Later.trans {s s' s'' : Aperture} (h : Later s s') (h' : Later s' s'') : Later s s'' where
  start := h'.start.trans h.start
  target := h'.target.trans h.target
  log := h.log.trans h'.log

section Guarded

variable {α β : Type} {arch : ArchConstants} {memory : ℕ → Memory} {undisturbed : Bool}
  {thread : Thread} {s : Aperture}

theorem wp_value {post : α → Thread → Aperture → Prop} {value : α} (h : post value thread s) :
    Procedure.wp (Aperture.contract arch memory undisturbed) (pure value : Guarded α).run
      (Delivers undisturbed post) thread s := by
  refine ⟨nofun, fun value' heq ↦ ?_⟩
  obtain rfl := Except.ok.inj heq
  exact h

theorem wp_then {first : Guarded α} {f : α → Guarded β} {spec : α → Thread → Aperture → Prop}
    {post : β → Thread → Aperture → Prop}
    (h : Procedure.wp (Aperture.contract arch memory undisturbed) first.run
      (Delivers undisturbed spec) thread s)
    (hrest : ∀ value thread' s', spec value thread' s' →
      Procedure.wp (Aperture.contract arch memory undisturbed) (f value).run
        (Delivers undisturbed post) thread' s') :
    Procedure.wp (Aperture.contract arch memory undisturbed) (first >>= f).run
      (Delivers undisturbed post) thread s := by
  apply wp_guarded h
  · exact fun _ value thread' s' hspec ↦ hrest value thread' s' (hspec.2 value rfl)
  · exact fun _ thread' s' hspec ↦ ⟨fun _ ↦ hspec.1 rfl, nofun⟩

/-- The rule for a read at an offset in the window. -/
theorem wp_read {off : ℕ} {f : UInt32 → Guarded β} {post : β → Thread → Aperture → Prop}
    (h : Procedure.wp (Aperture.contract arch memory undisturbed)
      (f (memory s.log.length (s.target + off))).run (Delivers undisturbed post) thread
      (s.logged [s.target + off])) :
    Procedure.wp (Aperture.contract arch memory undisturbed) (deref (s.start + off) >>= f).run
      (Delivers undisturbed post) thread s := by
  have hword : Procedure.wp (Aperture.contract arch memory undisturbed) (deref (s.start + off)).run
      (Delivers undisturbed fun word thread' s' ↦ word = memory s.log.length (s.target + off) ∧
        thread' = thread ∧ s' = s.logged [s.target + off]) thread s := by
    rw [wp_deref]
    refine ⟨trivial, fun answer s' hanswer ↦ ?_⟩
    obtain ⟨rfl, hword | ⟨hu, rfl⟩⟩ := hanswer
    · subst hword
      rw [Aperture.address_start]
      refine ⟨nofun, fun word heq ↦ ?_⟩
      exact ⟨(Except.ok.inj heq).symm, rfl, rfl⟩
    · dsimp only
      split
      · exact ⟨fun _ ↦ hu, nofun⟩
      · exact hu
  apply wp_then hword
  rintro _ _ _ ⟨rfl, rfl, rfl⟩
  exact h

theorem later_logged (addrs : List ℕ) : Later s (s.logged addrs) where
  start := rfl
  target := rfl
  log := by simp

end Guarded

/-! ## The table -/

/-- The value is the word at the address in one of the reads from the first up to the last. -/
def Found (memory : ℕ → Memory) (first last addr : ℕ) (value : UInt32) : Prop :=
  ∃ read, first ≤ read ∧ read < last ∧ value = memory read addr

theorem Found.mono {memory : ℕ → Memory} {first first' last last' addr : ℕ} {value : UInt32}
    (h : Found memory first last addr value) (hfirst : first' ≤ first) (hlast : last ≤ last') :
    Found memory first' last' addr value := by
  obtain ⟨read, hle, hlt, hvalue⟩ := h
  exact ⟨read, hfirst.trans hle, hlt.trans_le hlast, hvalue⟩

/-- The table holds a word for every tag that has an offset, and nothing else. -/
structure Filled (memory : ℕ → Memory) (first last data : ℕ) (map : TagMap)
    (values : Telemetry) : Prop where
  listed : ∀ tag : Fin TT_TELEMETRY_LEN, (tag : ℕ) ≠ 0 → map tag ≠ unset →
    Found memory first last (wordAddr data (map tag)) (values tag)
  others : ∀ tag : Fin TT_TELEMETRY_LEN, (tag : ℕ) = 0 ∨ map tag = unset → values tag = 0

/-- The table was filled by some of the reads, and the heartbeat, when it is listed, was the same
before and after them. -/
def Steady (memory : ℕ → Memory) (first last data : ℕ) (map : TagMap) (values : Telemetry) : Prop :=
  ∃ tick tock, first ≤ tick ∧ tock ≤ last ∧ Filled memory tick tock data map values ∧
    (map TT_TAG_TIMER_HEARTBEAT ≠ unset → tick ≤ tock ∧ tock < last ∧
      memory tick (wordAddr data (map TT_TAG_TIMER_HEARTBEAT)) =
        memory tock (wordAddr data (map TT_TAG_TIMER_HEARTBEAT)))

/-- That many cycles passed from the first read to one before the last. -/
def Passed (cycles : ℕ → ℕ) (first last number : ℕ) : Prop :=
  ∃ read, first ≤ read ∧ read < last ∧ cycles first + number ≤ cycles read

section Table

variable {arch : ArchConstants} {firmware : Firmware} {cycles : ℕ → ℕ} {undisturbed : Bool}
  {memory : ℕ → Memory} {thread : Thread} {s : Aperture} {off : ℕ} {map : TagMap} {table : Ref}

theorem wp_fillTable (tags : List (Fin TT_TELEMETRY_LEN)) (hnodup : tags.Nodup) :
    Procedure.wp (Aperture.contract arch memory undisturbed)
      (fillTable (s.start + off) map table tags).run (Delivers undisturbed fun _ thread' s' ↦
        Later s s' ∧
        (∀ tag ∈ tags, map tag ≠ unset → Found memory s.log.length s'.log.length
          (wordAddr (s.target + off) (map tag)) (thread'.tables table tag)) ∧
        ∀ tag, tag ∉ tags ∨ map tag = unset →
          thread'.tables table tag = thread.tables table tag) thread s := by
  induction tags generalizing thread s with
  | nil => exact wp_value ⟨.refl s, by simp, fun _ _ ↦ rfl⟩
  | cons tag rest ih =>
    obtain ⟨hnot, hrest⟩ := List.nodup_cons.mp hnodup
    rw [fillTable]
    by_cases hset : map tag ≠ unset
    · rw [if_pos hset, wordAddr, Nat.add_assoc]
      apply wp_read
      rw [wp_guarded_modify]
      refine Procedure.wp_mono (ih (s := s.logged _) hrest) fun _ res thread' s' hfill ↦ ?_
      refine ⟨hfill.1, fun value heq ↦ ?_⟩
      obtain ⟨hlater, hlisted, hothers⟩ := hfill.2 value heq
      have hlog : s.log.length < s'.log.length := by
        have hle := hlater.log
        rw [Aperture.logged_log, List.length_append] at hle
        exact hle
      refine ⟨(later_logged _).trans hlater, fun tag' hmem hset' ↦ ?_, fun tag' hkept ↦ ?_⟩
      · rcases List.mem_cons.mp hmem with rfl | hmem
        · refine ⟨s.log.length, le_rfl, hlog, ?_⟩
          rw [hothers tag' (.inl hnot), wordAddr, Nat.add_assoc]
          simp [storeTag]
        · exact (hlisted tag' hmem hset').mono (by simp) le_rfl
      · have hne : tag' ≠ tag := by
          rintro rfl
          rcases hkept with hmem | hunset
          · exact hmem List.mem_cons_self
          · exact hset hunset
        rw [hothers tag' (hkept.imp_left fun hmem hmem' ↦ hmem (List.mem_cons_of_mem _ hmem'))]
        simp [storeTag, Function.update_of_ne hne]
    · rw [if_neg hset]
      refine Procedure.wp_mono (ih hrest) fun _ res thread' s' hfill ↦ ?_
      refine ⟨hfill.1, fun value heq ↦ ?_⟩
      obtain ⟨hlater, hlisted, hothers⟩ := hfill.2 value heq
      refine ⟨hlater, fun tag' hmem hset' ↦ ?_, fun tag' hkept ↦ ?_⟩
      · rcases List.mem_cons.mp hmem with rfl | hmem
        · exact absurd hset' hset
        · exact hlisted tag' hmem hset'
      · exact hothers tag' (hkept.imp_left fun hmem hmem' ↦ hmem (List.mem_cons_of_mem _ hmem'))

/-- Filling an empty table with all tags. -/
theorem wp_fillEmpty (hzero : thread.tables table = fun _ ↦ 0) :
    Procedure.wp (Aperture.contract arch memory undisturbed)
      (fillTable (s.start + off) map table telemetryTags).run
      (Delivers undisturbed fun _ thread' s' ↦ Later s s' ∧
        Filled memory s.log.length s'.log.length (s.target + off) map (thread'.tables table))
      thread s := by
  refine Procedure.wp_mono (wp_fillTable telemetryTags telemetryTags_nodup)
    fun _ res thread' s' hfill ↦ ⟨hfill.1, fun value heq ↦ ?_⟩
  obtain ⟨hlater, hlisted, hothers⟩ := hfill.2 value heq
  refine ⟨hlater, fun tag htag ↦ hlisted tag (mem_telemetryTags.mpr htag), fun tag hunlisted ↦ ?_⟩
  rw [hothers tag, hzero]
  exact hunlisted.imp_left fun htag hmem ↦ mem_telemetryTags.mp hmem htag

/-- An attempt fills the table between two reads of the heartbeat. -/
theorem wp_attempt (hzero : thread.tables table = fun _ ↦ 0) :
    Procedure.wp (Aperture.contract arch memory undisturbed)
      (attempt (s.start + off) map table).run (Delivers undisturbed fun stable thread' s' ↦
        Later s s' ∧ ∃ tock, s.log.length ≤ tock ∧ tock < s'.log.length ∧
          Filled memory s.log.length tock (s.target + off) map (thread'.tables table) ∧
          (stable = true ↔
            memory s.log.length (wordAddr (s.target + off) (map TT_TAG_TIMER_HEARTBEAT)) =
              memory tock (wordAddr (s.target + off) (map TT_TAG_TIMER_HEARTBEAT))))
      thread s := by
  rw [attempt, wordAddr, Nat.add_assoc]
  apply wp_read
  refine wp_then (wp_fillEmpty (s := s.logged _) hzero) fun _ thread₁ s₁ hfilled ↦ ?_
  obtain ⟨hlater, hlisted, hothers⟩ := hfilled
  have hstart : s₁.start = s.start := hlater.start
  have htarget : s₁.target = s.target := hlater.target
  have hlog : s.log.length ≤ s₁.log.length := ((later_logged _).trans hlater).log
  rw [← hstart]
  apply wp_read
  apply wp_value
  refine ⟨((later_logged _).trans hlater).trans (later_logged _), s₁.log.length, hlog, ?_, ?_, ?_⟩
  · simp
  · exact ⟨fun tag htag hset ↦ (hlisted tag htag hset).mono (by simp) le_rfl, hothers⟩
  · rw [decide_eq_true_iff, htarget, wordAddr, Nat.add_assoc]

/-- An attempt that was not stable took a cycle at least. -/
theorem cycle_lt (hcycles : Monotone cycles) {tick tock addr : ℕ} (hle : tick ≤ tock)
    (hne : seen firmware cycles tick addr ≠ seen firmware cycles tock addr) :
    cycles tick < cycles tock := by
  apply lt_of_le_of_ne (hcycles hle)
  intro heq
  unfold seen at hne
  exact hne (by rw [heq])

theorem Passed.before (hcycles : Monotone cycles) {first tock middle last number : ℕ}
    (h : Passed cycles middle last number) (hcycle : cycles first < cycles tock)
    (hle : first ≤ tock) (hlt : tock < middle) : Passed cycles first last (number + 1) := by
  obtain ⟨read, hread, hlast, hpassed⟩ := h
  have hmiddle : cycles tock ≤ cycles middle := hcycles hlt.le
  exact ⟨read, by omega, hlast, by omega⟩

/-- The attempts fail when a cycle passes during each of them. -/
theorem wp_attemptSnapshot (hcycles : Monotone cycles) (hzero : thread.tables table = fun _ ↦ 0)
    (tries : ℕ) :
    Procedure.wp (Aperture.contract arch (seen firmware cycles) undisturbed)
      (attemptSnapshot (s.start + off) map table tries).run
      (Delivers undisturbed fun status thread' s' ↦ Later s s' ∧
        (status = .TT_OK () → Steady (seen firmware cycles) s.log.length s'.log.length
          (s.target + off) map (thread'.tables table)) ∧
        (status = .TT_ERR → thread'.errno = Errno.EIO ∧ (tries ≠ 0 →
          map TT_TAG_TIMER_HEARTBEAT ≠ unset ∧
            Passed cycles s.log.length s'.log.length tries))) thread s := by
  by_cases hbeat : map TT_TAG_TIMER_HEARTBEAT ≠ unset
  · induction tries generalizing thread s with
    | zero =>
      refine ⟨nofun, fun status heq ↦ ?_⟩
      obtain rfl := Except.ok.inj heq
      exact ⟨.refl s, nofun, fun _ ↦ ⟨rfl, fun h ↦ absurd rfl h⟩⟩
    | succ tries ih =>
      rw [attemptSnapshot_eq hbeat]
      refine wp_then (wp_attempt hzero) fun stable thread₁ s₁ hattempt ↦ ?_
      obtain ⟨hlater, tock, hle, hlt, hfilled, hstable⟩ := hattempt
      cases stable with
      | true =>
        apply wp_value
        have hsteady : Steady (seen firmware cycles) s.log.length s₁.log.length (s.target + off) map
            (thread₁.tables table) :=
          ⟨s.log.length, tock, le_rfl, hlt.le, hfilled, fun _ ↦ ⟨hle, hlt, hstable.mp rfl⟩⟩
        exact ⟨hlater, fun _ ↦ hsteady, nofun⟩
      | false =>
        have hcycle : cycles s.log.length < cycles tock :=
          cycle_lt hcycles hle fun heq ↦ Bool.false_ne_true (hstable.mpr heq)
        have hzero₁ : (zeroTable table thread₁).tables table = fun _ ↦ 0 := by
          simp [zeroTable]
        rw [if_neg Bool.false_ne_true, wp_guarded_modify, ← hlater.start, ← hlater.target]
        refine Procedure.wp_mono (ih hzero₁) fun _ res thread' s' hrest ↦ ?_
        refine ⟨hrest.1, fun status heq ↦ ?_⟩
        obtain ⟨hlater', hok, herr⟩ := hrest.2 status heq
        refine ⟨hlater.trans hlater', fun hstatus ↦ ?_, fun hstatus ↦ ?_⟩
        · obtain ⟨tick, tock, hfirst, hsteady⟩ := hok hstatus
          exact ⟨tick, tock, hlater.log.trans hfirst, hsteady⟩
        · obtain ⟨herrno, hpassed⟩ := herr hstatus
          refine ⟨herrno, fun _ ↦ ⟨hbeat, ?_⟩⟩
          by_cases htries : tries = 0
          · subst htries
            exact ⟨tock, hle, hlt.trans_le hlater'.log, hcycle⟩
          · exact (hpassed htries).2.before hcycles hcycle hle hlt
  · cases tries with
    | zero =>
      refine ⟨nofun, fun status heq ↦ ?_⟩
      obtain rfl := Except.ok.inj heq
      exact ⟨.refl s, nofun, fun _ ↦ ⟨rfl, fun h ↦ absurd rfl h⟩⟩
    | succ tries =>
      rw [attemptSnapshot, if_neg hbeat]
      refine wp_then (wp_fillEmpty hzero) fun _ thread₁ s₁ hfilled ↦ ?_
      apply wp_value
      have hsteady : Steady (seen firmware cycles) s.log.length s₁.log.length (s.target + off) map
          (thread₁.tables table) :=
        ⟨s.log.length, s₁.log.length, le_rfl, le_rfl, hfilled.2, fun h ↦ absurd h hbeat⟩
      exact ⟨hfilled.1, fun _ ↦ hsteady, nofun⟩

theorem wp_readEntries (hpublishes : firmware.Publishes (s.target + off)) (idxs : List ℕ)
    (hidxs : ∀ idx ∈ idxs, idx < TELEM_ENTRY_CAP) (map : TagMap) :
    Procedure.wp (Aperture.contract arch (seen firmware cycles) undisturbed)
      (readEntries (s.start + off) idxs map).run (Delivers undisturbed fun out thread' s' ↦
        Later s s' ∧ thread'.tables = thread.tables ∧
        out = recordEntries (idxs.map ((firmware.memory 0).entry (s.target + off))) map)
      thread s := by
  induction idxs generalizing map thread s with
  | nil => exact wp_value ⟨.refl s, rfl, rfl⟩
  | cons idx rest ih =>
    obtain ⟨hidx, hrest⟩ := List.forall_mem_cons.mp hidxs
    have hentry : seen firmware cycles s.log.length (s.target + (off + 4 * (2 + idx))) =
        (firmware.memory 0).entry (s.target + off) idx := by
      rw [← Nat.add_assoc]
      exact hpublishes.entry _ idx hidx
    rw [readEntries, Nat.add_assoc]
    apply wp_read
    rw [hentry, List.map_cons, recordEntries]
    cases recordEntry map ((firmware.memory 0).entry (s.target + off) idx) with
    | none => exact wp_value ⟨later_logged _, rfl, rfl⟩
    | some map' =>
      refine Procedure.wp_mono (ih (s := s.logged _) hpublishes hrest map')
        fun _ res thread' s' hout ↦ ⟨hout.1, fun out heq ↦ ?_⟩
      obtain ⟨hlater, htables, hrecorded⟩ := hout.2 out heq
      exact ⟨(later_logged _).trans hlater, htables, hrecorded⟩

/-- How a snapshot ends, given the entries of the table of tags. -/
structure Snapped (firmware : Firmware) (cycles : ℕ → ℕ) (tags data first last : ℕ)
    (status : Status) (errno : Errno) (values : Telemetry) : Prop where
  delivered : status = .TT_OK () → ∃ map,
    recordEntries ((firmware.memory 0).entries tags) (fun _ ↦ unset) = some map ∧
      Steady (seen firmware cycles) first last data map values
  refused : status = .TT_ERR → errno = Errno.EIO ∧ (Repeats ((firmware.memory 0).entries tags) ∨
    Passed cycles first last 3)

theorem wp_snapshot {tagsOff dataOff : ℕ} (hcycles : Monotone cycles)
    (hpublishes : firmware.Publishes (s.target + tagsOff))
    (hzero : thread.tables table = fun _ ↦ 0) :
    Procedure.wp (Aperture.contract arch (seen firmware cycles) undisturbed)
      (snapshot (s.start + tagsOff) (s.start + dataOff) table).run
      (Delivers undisturbed fun status thread' s' ↦ Later s s' ∧
        Snapped firmware cycles (s.target + tagsOff) (s.target + dataOff) s.log.length s'.log.length
          status thread'.errno (thread'.tables table)) thread s := by
  have hcount : seen firmware cycles s.log.length (s.target + (tagsOff + 4)) =
      firmware.memory 0 (s.target + tagsOff + 4) := by
    rw [← Nat.add_assoc]
    exact hpublishes.count _
  have hidxs : ∀ idx ∈ List.range ((firmware.memory 0).entryCount (s.target + tagsOff)),
      idx < TELEM_ENTRY_CAP := fun idx hidx ↦
    (List.mem_range.mp hidx).trans_le (min_le_right _ _)
  rw [snapshot, Nat.add_assoc]
  apply wp_read
  rw [hcount]
  refine wp_then (wp_readEntries (s := s.logged _) hpublishes _ hidxs _)
    fun out thread₁ s₁ hentries ↦ ?_
  obtain ⟨hlater, htables, hrecorded⟩ := hentries
  have hfirst : Later s s₁ := (later_logged _).trans hlater
  cases out with
  | none =>
    have hrepeats : Repeats ((firmware.memory 0).entries (s.target + tagsOff)) := by
      rcases recordEntries_eq_none.mp hrecorded.symm with ⟨entry, -, tag, -, -, hne⟩ | hnot
      · exact absurd rfl hne
      · exact not_not.mp (mt not_repeats_iff.mp hnot)
    refine ⟨by simp, fun status heq ↦ ?_⟩
    obtain rfl := Except.ok.inj heq
    exact ⟨hfirst, by simp, fun _ ↦ ⟨rfl, .inl hrepeats⟩⟩
  | some map =>
    have hzero₁ : thread₁.tables table = fun _ ↦ 0 := by
      rw [htables, hzero]
    rw [← hfirst.start]
    refine Procedure.wp_mono (wp_attemptSnapshot hcycles hzero₁ 3)
      fun _ res thread' s' hattempts ↦ ⟨hattempts.1, fun status heq ↦ ?_⟩
    obtain ⟨hlater', hok, herr⟩ := hattempts.2 status heq
    rw [hfirst.target] at hok
    refine ⟨hfirst.trans hlater', fun hstatus ↦ ?_, fun hstatus ↦ ?_⟩
    · obtain ⟨tick, tock, htick, hsteady⟩ := hok hstatus
      exact ⟨map, hrecorded.symm, tick, tock, hfirst.log.trans htick, hsteady⟩
    · obtain ⟨herrno, hpassed⟩ := herr hstatus
      obtain ⟨read, hread, hlast, hcycle⟩ := (hpassed (by decide)).2
      have hle : cycles s.log.length ≤ cycles s₁.log.length := hcycles hfirst.log
      exact ⟨herrno, .inr ⟨read, hfirst.log.trans hread, hlast, by omega⟩⟩

end Table

/-! ## The call -/

/-- The table that was delivered with a number of reads. -/
structure Delivered (arch : ArchConstants) (firmware : Firmware) (cycles : ℕ → ℕ) (reads : ℕ)
    (values : Telemetry) : Prop where
  valid : Valid arch (seen firmware cycles)
  distinct : ¬Repeats ((firmware.memory 0).entries (tagsPointer arch (seen firmware cycles)).toNat)
  /-- A listed tag has the word at its offset in one of the reads. -/
  listed : ∀ (tag : Fin TT_TELEMETRY_LEN) (off : UInt16), (tag : ℕ) ≠ 0 → off ≠ unset →
    Listed ((firmware.memory 0).entries (tagsPointer arch (seen firmware cycles)).toNat) tag off →
    Found (seen firmware cycles) 0 reads
      (wordAddr (dataPointer arch (seen firmware cycles)).toNat off) (values tag)
  others : ∀ tag : Fin TT_TELEMETRY_LEN, ((tag : ℕ) ≠ 0 → ∀ off, off ≠ unset →
    ¬Listed ((firmware.memory 0).entries (tagsPointer arch (seen firmware cycles)).toNat) tag off) →
    values tag = 0
  /-- All words are those of one cycle, where the heartbeat that is listed counts the cycles. -/
  coherent : ∀ beat, beat ≠ unset →
    Listed ((firmware.memory 0).entries (tagsPointer arch (seen firmware cycles)).toNat)
      TT_TAG_TIMER_HEARTBEAT beat →
    firmware.Beats (wordAddr (dataPointer arch (seen firmware cycles)).toNat beat) →
    cycles (reads - 1) < cycles 0 + 2 ^ 32 →
    ∃ cycle, cycles 0 ≤ cycle ∧ cycle ≤ cycles (reads - 1) ∧
      ∀ (tag : Fin TT_TELEMETRY_LEN) (off : UInt16), (tag : ℕ) ≠ 0 → off ≠ unset →
        Listed ((firmware.memory 0).entries (tagsPointer arch (seen firmware cycles)).toNat) tag
          off →
        values tag = firmware.memory cycle
          (wordAddr (dataPointer arch (seen firmware cycles)).toNat off)

/-- What is wrong with a call that was refused, and how it is reported. -/
structure Refused (arch : ArchConstants) (firmware : Firmware) (cycles : ℕ → ℕ) (reads : ℕ)
    (errno : Errno) : Prop where
  errno : errno = Errno.EIO
  cause : ¬Valid arch (seen firmware cycles) ∨
    Repeats ((firmware.memory 0).entries (tagsPointer arch (seen firmware cycles)).toNat) ∨
    Passed cycles 0 reads 3

structure Outcome (arch : ArchConstants) (firmware : Firmware) (cycles : ℕ → ℕ)
    (undisturbed : Bool) (reads : ℕ) (status : Status) (errno : Errno) (values : Telemetry) :
    Prop where
  delivered : status = .TT_OK () → Delivered arch firmware cycles reads values
  refused : undisturbed = true → status = .TT_ERR → Refused arch firmware cycles reads errno

section Call

variable {arch : ArchConstants} {firmware : Firmware} {cycles : ℕ → ℕ} {undisturbed : Bool}
  {memory : ℕ → Memory} {thread : Thread} {s : Aperture} {table : Ref} {sess : Session} {tlb : Tlb}
  {deviceId : UInt16} {first last data : ℕ} {map : TagMap} {values : Telemetry}

/-- All reads between two equal heartbeats are made in one cycle. -/
theorem Steady.coherent (h : Steady (seen firmware cycles) first last data map values)
    (hcycles : Monotone cycles) (hbeat : map TT_TAG_TIMER_HEARTBEAT ≠ unset)
    (hbeats : firmware.Beats (wordAddr data (map TT_TAG_TIMER_HEARTBEAT)))
    (hbrief : cycles (last - 1) < cycles 0 + 2 ^ 32) :
    ∃ cycle, cycles 0 ≤ cycle ∧ cycle ≤ cycles (last - 1) ∧
      ∀ tag : Fin TT_TELEMETRY_LEN, (tag : ℕ) ≠ 0 → map tag ≠ unset →
        values tag = firmware.memory cycle (wordAddr data (map tag)) := by
  obtain ⟨tick, tock, -, -, hfilled, hsteady⟩ := h
  obtain ⟨hle, hlt, hequal⟩ := hsteady hbeat
  have hstart : cycles 0 ≤ cycles tick := hcycles (Nat.zero_le tick)
  have hend : cycles tock ≤ cycles (last - 1) := hcycles (by omega)
  have hsame : cycles tock = cycles tick :=
    hbeats.cycle_eq (hcycles hle) (by omega) hequal
  refine ⟨cycles tick, hstart, hsame ▸ hend, fun tag htag hset ↦ ?_⟩
  obtain ⟨read, htick, htock, hvalue⟩ := hfilled.listed tag htag hset
  have hcycle : cycles read = cycles tick :=
    le_antisymm (hsame ▸ hcycles htock.le) (hcycles htick)
  rw [hvalue, seen, hcycle]

theorem delivered_of_steady (hcycles : Monotone cycles) (hvalid : Valid arch (seen firmware cycles))
    (hmap : recordEntries ((firmware.memory 0).entries
      (tagsPointer arch (seen firmware cycles)).toNat) (fun _ ↦ unset) = some map)
    (hsteady : Steady (seen firmware cycles) first last
      (dataPointer arch (seen firmware cycles)).toNat map values) :
    Delivered arch firmware cycles last values := by
  have hlisted {tag : Fin TT_TELEMETRY_LEN} {off : UInt16} (htag : (tag : ℕ) ≠ 0)
      (hoff : off ≠ unset) : Listed ((firmware.memory 0).entries
        (tagsPointer arch (seen firmware cycles)).toNat) tag off → map tag = off :=
    fun h ↦ (recordEntries_eq_some hmap htag hoff).mpr (.inr h)
  obtain ⟨tick, tock, -, htock, hfilled, -⟩ := id hsteady
  constructor
  · exact hvalid
  · intro hrepeats
    have hnot : ¬List.Pairwise SnapshotDecoding.Spares _ := mt not_repeats_iff.mpr (not_not.mpr hrepeats)
    rw [recordEntries_eq_none.mpr (.inr hnot)] at hmap
    cases hmap
  · intro tag off htag hoff hin
    obtain rfl := hlisted htag hoff hin
    exact (hfilled.listed tag htag hoff).mono (Nat.zero_le _) htock
  · intro tag hnone
    apply hfilled.others
    by_contra hboth
    obtain ⟨htag, hset⟩ := not_or.mp hboth
    rcases (recordEntries_eq_some hmap htag hset).mp rfl with hunset | hin
    · exact hset hunset.symm
    · exact hnone htag (map tag) hset hin
  · intro beat hbeat hin hbeats hbrief
    obtain rfl := hlisted (by decide) hbeat hin
    obtain ⟨cycle, hstart, hend, hvalues⟩ := hsteady.coherent hcycles hbeat hbeats hbrief
    refine ⟨cycle, hstart, hend, fun tag off htag hoff htagged ↦ ?_⟩
    obtain rfl := hlisted htag hoff htagged
    exact hvalues tag htag hoff

/-- What a call does to the window, and that it touches no table. -/
theorem wp_kept {α : Type} {procedure : C α} {post : α → Aperture → Prop}
    (h : Procedure.wp (Aperture.contract arch memory undisturbed) procedure
      (fun _ out _ s' ↦ post out s') thread s)
    (hkept : Procedure.wp (.confined NoLoad) procedure
      (fun _ _ thread' _ ↦ thread'.tables = thread.tables) thread ()) :
    Procedure.wp (Aperture.contract arch memory undisturbed) procedure
      (fun _ out thread' s' ↦ post out s' ∧ thread'.tables = thread.tables) thread s :=
  Procedure.wp_and h (Procedure.wp_confined hkept fun _ _ _ ↦ trivial)

theorem kept_tlbBind (cfg : TlbConfig) : Procedure.wp (.confined NoLoad) (tlbBind sess tlb cfg)
    (fun _ _ thread' _ ↦ thread'.tables = thread.tables) thread () :=
  Procedure.wp_mono (tlbBind_records cfg) fun _ _ _ _ h ↦ h.2.tables

theorem kept_ttTrapArm (ptr len : ℕ) : Procedure.wp (.confined NoLoad) (ttTrapArm ptr len)
    (fun _ _ thread' _ ↦ thread'.tables = thread.tables) thread () :=
  Procedure.wp_mono (ttTrapArm_records ptr len) fun _ _ _ _ h ↦ h.2.2.1

theorem kept_tlbFree : Procedure.wp (.confined NoLoad) (tlbFree sess tlb)
    (fun _ _ thread' _ ↦ thread'.tables = thread.tables) thread () :=
  Procedure.wp_mono tlbFree_onlyErrno fun _ _ _ _ h ↦ h.tables

/-- A call that a disturbed device cut short. -/
theorem outcome_cut {reads : ℕ} {errno : Errno} (hu : undisturbed = false) :
    Outcome arch firmware cycles undisturbed reads .TT_ERR errno values where
  delivered := nofun
  refused hu' := nomatch hu.symm.trans hu'

/-- Both pointers are read first. -/
theorem wp_readPointers (harch : archConstants deviceId = some arch)
    (htarget : s.target = (apbConfig arch).addr.toNat) (hlog : s.log = []) :
    Procedure.wp (Aperture.contract arch memory undisturbed) (readPointers s.start arch).run
      (Delivers undisturbed fun pointers thread' _ ↦
        pointers = (tagsPointer arch memory, dataPointer arch memory) ∧
        thread'.tables = thread.tables) thread s := by
  obtain ⟨htags, hdata⟩ := registers_shown harch
  rw [← htarget] at htags hdata
  apply wp_read
  have hstart : s.start = (s.logged [s.target + windowOffset arch.telemTags]).start := rfl
  rw [hstart]
  apply wp_read
  apply wp_value
  rw [Aperture.logged_target, Aperture.logged_log, htags, hdata, hlog]
  exact ⟨rfl, rfl⟩

theorem wp_readSnapshot (hfd : ¬sess.fd < 0) (hcycles : Monotone cycles)
    (hpublishes : firmware.Publishes (tagsPointer arch (seen firmware cycles)).toNat)
    (hvalid : Valid arch (seen firmware cycles)) (hzero : thread.tables table = fun _ ↦ 0) :
    Procedure.wp (Aperture.contract arch (seen firmware cycles) undisturbed)
      (readSnapshot sess arch tlb (tagsPointer arch (seen firmware cycles))
        (dataPointer arch (seen firmware cycles)) table) (fun _ out thread' s' ↦
        Outcome arch firmware cycles undisturbed s'.log.length out.1 thread'.errno
          (thread'.tables table)) thread s := by
  refine Procedure.wp_call (wp_kept (TelemetryReads.wp_tlbBind hfd _) (kept_tlbBind _))
    fun _ out thread₁ s₁ hbind ↦ ?_
  obtain ⟨status, tlb₁⟩ := out
  obtain ⟨⟨-, hfail, hbound⟩, htables₁⟩ := hbind
  cases status with
  | TT_ERR => exact outcome_cut (hfail rfl)
  | TT_OK done =>
    obtain ⟨hstart, htarget⟩ := hbound rfl
    refine Procedure.wp_call (wp_kept (TelemetryReads.wp_ttTrapArm tlb₁.ptr TT_TLB_2MB)
      (kept_ttTrapArm _ _)) fun _ _ thread₂ s₂ harm ↦ ?_
    obtain ⟨rfl, htables₂⟩ := harm
    have hzero₂ : thread₂.tables table = fun _ ↦ 0 := by
      rw [htables₂, htables₁, hzero]
    have htags := (shared_shown arch hvalid.1).2
    have hdata := (shared_shown arch hvalid.2).2
    rw [← htarget] at htags hdata
    dsimp only at hstart ⊢
    rw [← htags] at hpublishes
    rw [← hstart]
    refine Procedure.wp_call (wp_snapshot hcycles hpublishes hzero₂)
      fun _ res thread₃ s₃ hsnapshot ↦ ?_
    rw [htags, hdata] at hsnapshot
    obtain ⟨hfault, hsnapped⟩ := hsnapshot
    cases res with
    | error fault => exact outcome_cut (hfault rfl)
    | ok status =>
      obtain ⟨-, hdelivered, hrefused⟩ := hsnapped status rfl
      constructor
      · intro hstatus
        obtain ⟨map, hmap, hsteady⟩ := hdelivered hstatus
        exact delivered_of_steady hcycles hvalid hmap hsteady
      · intro _ hstatus
        obtain ⟨herrno, hcause⟩ := hrefused hstatus
        refine ⟨herrno, .inr (hcause.imp_right fun hpassed ↦ ?_)⟩
        obtain ⟨read, -, hlast, hcycle⟩ := hpassed
        have hle : cycles 0 ≤ cycles s₂.log.length := hcycles (Nat.zero_le _)
        exact ⟨read, Nat.zero_le _, hlast, by omega⟩

/-- The window shows the two registers first, and shared memory once they were found valid. -/
theorem wp_readWindow (hfd : ¬sess.fd < 0) (harch : archConstants deviceId = some arch)
    (hcycles : Monotone cycles)
    (hpublishes : firmware.Publishes (tagsPointer arch (seen firmware cycles)).toNat)
    (hlog : s.log = []) (hzero : thread.tables table = fun _ ↦ 0) :
    Procedure.wp (Aperture.contract arch (seen firmware cycles) undisturbed)
      (readWindow sess arch tlb table) (fun _ out thread' s' ↦
        Outcome arch firmware cycles undisturbed s'.log.length out.1 thread'.errno
          (thread'.tables table)) thread s := by
  refine Procedure.wp_call (wp_kept (TelemetryReads.wp_tlbBind hfd _) (kept_tlbBind _))
    fun _ out thread₁ s₁ hbind ↦ ?_
  obtain ⟨status, tlb₁⟩ := out
  obtain ⟨⟨hlog₁, hfail, hbound⟩, htables₁⟩ := hbind
  rw [hlog] at hlog₁
  cases status with
  | TT_ERR => exact outcome_cut (hfail rfl)
  | TT_OK done =>
    obtain ⟨hstart, htarget⟩ := hbound rfl
    refine Procedure.wp_call (wp_kept (TelemetryReads.wp_ttTrapArm tlb₁.ptr TT_TLB_2MB)
      (kept_ttTrapArm _ _)) fun _ _ thread₂ s₂ harm ↦ ?_
    obtain ⟨rfl, htables₂⟩ := harm
    dsimp only at hstart ⊢
    rw [← hstart]
    refine Procedure.wp_call (wp_readPointers harch htarget hlog₁)
      fun _ res thread₃ s₃ hpointers ↦ ?_
    obtain ⟨hfault, hread⟩ := hpointers
    cases res with
    | error fault => exact outcome_cut (hfault rfl)
    | ok pointers =>
      obtain ⟨rfl, htables₃⟩ := hread pointers rfl
      dsimp only
      split
      · rename_i hboth
        have hzero₃ : (Thread.disarm thread₃).tables table = fun _ ↦ 0 := by
          rw [← hzero, ← htables₁, ← htables₂, ← htables₃]
          rfl
        rw [ttTrapDisarm, Procedure.wp_bind, Procedure.wp_modify]
        exact wp_readSnapshot hfd hcycles hpublishes (Bool.and_eq_true_iff.mp hboth) hzero₃
      · rename_i hboth
        have hinvalid : ¬Valid arch (seen firmware cycles) :=
          fun hvalid ↦ hboth (Bool.and_eq_true_iff.mpr hvalid)
        exact ⟨by simp, fun _ _ ↦ ⟨rfl, .inl hinvalid⟩⟩

theorem wp_telemetry (hfd : ¬sess.fd < 0) (hcycles : Monotone cycles)
    (hpublishes : firmware.Publishes (tagsPointer arch (seen firmware cycles)).toNat)
    (hlog : s.log = []) :
    Procedure.wp (Aperture.contract arch (seen firmware cycles) undisturbed)
      (telemetry sess table) (fun _ status thread' s' ↦
        Outcome arch firmware cycles undisturbed s'.log.length status thread'.errno
          (thread'.tables table)) thread s := by
  rw [telemetry, if_neg hfd]
  refine Procedure.wp_call (TelemetryReads.wp_devInfo hfd) fun _ info thread₁ s₁ hasked ↦ ?_
  obtain ⟨rfl, hfail, hinfo⟩ := hasked
  cases info with
  | TT_ERR => exact outcome_cut (hfail rfl)
  | TT_OK info =>
    have harch := hinfo info rfl
    simp only [harch]
    rw [Procedure.wp_bind, Procedure.wp_modify]
    have hkept : Procedure.wp (.confined NoLoad)
        (tlbAlloc sess TT_TLB_2MB TT_TLB_UC { id := 0, ptr := NULL, len := 0, idx := 0 })
        (fun _ _ thread' _ ↦ thread'.tables = (zeroTable table thread₁).tables)
        (zeroTable table thread₁) () :=
      Procedure.wp_mono (tlbAlloc_records TT_TLB_2MB) fun _ _ _ _ h ↦ h.2.2.tables
    refine Procedure.wp_call (wp_kept (TelemetryReads.wp_tlbAlloc hfd TT_TLB_2MB) hkept)
      fun _ out thread₂ s₂ halloc ↦ ?_
    obtain ⟨status, tlb₂⟩ := out
    obtain ⟨⟨rfl, hfail⟩, htables⟩ := halloc
    cases status with
    | TT_ERR => exact outcome_cut (hfail rfl)
    | TT_OK done =>
      have hzero : thread₂.tables table = fun _ ↦ 0 := by
        rw [htables]
        simp [zeroTable]
      refine Procedure.wp_call (wp_readWindow hfd harch hcycles hpublishes hlog hzero)
        fun _ out thread₃ s₃ hread ↦ ?_
      obtain ⟨status, tlb₃⟩ := out
      cases status with
      | TT_OK done =>
        rw [ttTrapDisarm, Procedure.wp_bind, Procedure.wp_modify]
        refine Procedure.wp_call (wp_kept TelemetryReads.wp_tlbFree kept_tlbFree)
          fun _ _ thread₄ s₄ hfree ↦ ?_
        obtain ⟨rfl, htables₄⟩ := hfree
        have hsame : thread₄.tables = thread₃.tables := htables₄
        refine ⟨fun _ ↦ ?_, by simp⟩
        rw [hsame]
        exact hread.delivered rfl
      | TT_ERR =>
        simp only [Procedure.wp_bind, wp_getErrno, ttTrapDisarm, Procedure.wp_modify]
        refine Procedure.wp_mono TelemetryReads.wp_tlbFree fun _ _ thread₄ s₄ hfree ↦ ?_
        subst hfree
        exact ⟨by simp, hread.refused⟩

/-- A table that is delivered comes from valid pointers and a table of tags without repetition. It
has the word of every listed tag and nothing else, all of one cycle where the heartbeat is listed.
An undisturbed call always returns, and fails only with `EIO`, for pointers or entries that are not
sound or when cycles passed during all three attempts. -/
theorem telemetry_delivers (harch : archConstants deviceId = some arch) (hcycles : Monotone cycles)
    (hpublishes : firmware.Publishes (tagsPointer arch (seen firmware cycles)).toNat)
    (hfd : 0 ≤ sess.fd) (hlog : s.log = []) :
    (∀ undisturbed trace thread' s', Procedure.Executes
      (Aperture.contract arch (seen firmware cycles) undisturbed)
      (ttTelemetry (some sess) (some table)) thread s trace (.TT_OK ()) thread' s' →
      Delivered arch firmware cycles s'.log.length (thread'.tables table)) ∧
    Procedure.Completes (Aperture.contract arch (seen firmware cycles) true)
      (ttTelemetry (some sess) (some table)) thread s fun _ status thread' s' ↦
        status = .TT_ERR → Refused arch firmware cycles s'.log.length thread'.errno := by
  have hwp (undisturbed : Bool) : Procedure.wp
      (Aperture.contract arch (seen firmware cycles) undisturbed)
      (ttTelemetry (some sess) (some table)) (fun _ status thread' s' ↦
        Outcome arch firmware cycles undisturbed s'.log.length status thread'.errno
          (thread'.tables table)) thread s :=
    wp_telemetry (not_lt.mpr hfd) hcycles hpublishes hlog
  constructor
  · exact fun undisturbed _ _ _ hrun ↦ (hrun.ensures (hwp undisturbed)).delivered rfl
  · let info : DevInfo := ⟨0, 0, deviceId, 0, 0, 0, 0, 0⟩
    have hinfo : archConstants info.deviceId = some arch := harch
    have hstops : ∀ reason,
        ¬(Aperture.contract arch (seen firmware cycles) true).tolerates reason :=
      fun _ hstop ↦ nomatch hstop
    have hcompletes := Procedure.wp_completes
      (fun op s _ ↦ Aperture.contract_answered hinfo op s) hstops (hwp true)
    exact hcompletes.mono fun _ _ _ _ houtcome ↦ houtcome.refused rfl

end Call

/-! ## A firmware that counts -/

/-- A table that lists the heartbeat and one more tag, whose words both hold the cycle. -/
def countingFirmware : Firmware where
  memory cycle addr :=
    if addr = wormhole.telemTags.toNat then CSM_BASE
    else if addr = wormhole.telemData.toNat then CSM_BASE + 0x1000
    else if addr = CSM_BASE.toNat + 4 then 2
    else if addr = CSM_BASE.toNat + 8 then 0x00040020
    else if addr = CSM_BASE.toNat + 12 then 0x00050001
    else if CSM_BASE.toNat + 0x1000 ≤ addr then UInt32.ofNat cycle
    else 0

/-- One cycle passes in the middle of the first attempt. -/
def turningCycles (read : ℕ) : ℕ := if read < 6 then 4 else 5

theorem counting_publishes : countingFirmware.Publishes CSM_BASE.toNat := by
  constructor
  · intro cycle
    have htags : CSM_BASE.toNat + 4 ≠ wormhole.telemTags.toNat := by decide
    have hdata : CSM_BASE.toNat + 4 ≠ wormhole.telemData.toNat := by decide
    dsimp only [countingFirmware]
    rw [if_neg htags, if_neg hdata, if_pos rfl, if_neg htags, if_neg hdata, if_pos rfl]
  · intro cycle idx hidx
    have hcap : idx < 128 := hidx
    have hbelow : ¬CSM_BASE.toNat + 0x1000 ≤ CSM_BASE.toNat + 4 * (2 + idx) := by omega
    simp only [Memory.entry, countingFirmware, if_neg hbelow]

/-- The data words, which start behind the entries and end before the registers. -/
theorem counting_word (cycle : ℕ) (off : UInt16) :
    countingFirmware.memory cycle (wordAddr (CSM_BASE + 0x1000).toNat off) =
      UInt32.ofNat cycle := by
  have hbase : (CSM_BASE + 0x1000).toNat = CSM_BASE.toNat + 0x1000 := by decide
  have htags : CSM_BASE.toNat + 0x50000 < wormhole.telemTags.toNat := by decide
  have hdata : CSM_BASE.toNat + 0x50000 < wormhole.telemData.toNat := by decide
  have hoff := off.toNat_lt
  rw [wordAddr, hbase]
  dsimp only [countingFirmware]
  rw [if_neg (by omega), if_neg (by omega), if_neg (by omega), if_neg (by omega),
    if_neg (by omega), if_pos (by omega)]

theorem counting_beats (off : UInt16) :
    countingFirmware.Beats (wordAddr (CSM_BASE + 0x1000).toNat off) := by
  intro cycle
  rw [counting_word, counting_word, UInt32.ofNat_add]
  rfl

theorem counting_entries : (countingFirmware.memory 0).entries CSM_BASE.toNat =
    [0x00040020, 0x00050001] := by
  decide

theorem counting_distinct : ¬Repeats ((countingFirmware.memory 0).entries CSM_BASE.toNat) := by
  have htags : entryTag 0x00050001 ≠ entryTag 0x00040020 := by decide
  rw [not_repeats_iff, counting_entries]
  simp [SnapshotDecoding.Spares, htags]

theorem turning_mono : Monotone turningCycles := by
  intro read read' hle
  unfold turningCycles
  split
  · split
    · exact le_rfl
    · decide
  · rw [if_neg (by omega)]

theorem turning_le (read : ℕ) : turningCycles read ≤ 5 := by
  unfold turningCycles
  split
  · decide
  · exact le_rfl

theorem counting_delivers : ∃ trace thread' s',
    Procedure.Executes (Aperture.contract wormhole (seen countingFirmware turningCycles) true)
      (ttTelemetry (some sampleSession) (some 0)) Thread.initial
      TelemetryReads.sampleAperture trace (.TT_OK ()) thread' s' ∧
    thread'.tables 0 ⟨1, by decide⟩ = thread'.tables 0 TT_TAG_TIMER_HEARTBEAT := by
  have hpublishes : countingFirmware.Publishes
      (tagsPointer wormhole (seen countingFirmware turningCycles)).toNat := counting_publishes
  have harch : archConstants TT_ARCH_WORMHOLE = some wormhole := rfl
  have hlog : TelemetryReads.sampleAperture.log = [] := rfl
  have hfd : 0 ≤ sampleSession.fd := by decide
  obtain ⟨hdelivers, hcompletes⟩ := @telemetry_delivers _ _ _ Thread.initial _ 0 _ _ harch
    turning_mono hpublishes hfd hlog
  obtain ⟨trace, status, thread', s', hrun⟩ := hcompletes.returns
  cases status with
  | TT_ERR =>
    obtain ⟨-, hcause⟩ := hcompletes.ensures _ _ _ _ hrun rfl
    rcases hcause with hinvalid | hrepeats | ⟨read, -, -, hpassed⟩
    · exact absurd ⟨by decide, by decide⟩ hinvalid
    · exact absurd hrepeats counting_distinct
    · have hcycle := hpassed.trans (turning_le read)
      exact absurd hcycle (by decide)
  | TT_OK done =>
    have hdelivered := hdelivers _ _ _ _ hrun
    have hbeat : Listed ((countingFirmware.memory 0).entries CSM_BASE.toNat)
        TT_TAG_TIMER_HEARTBEAT 4 := by
      rw [counting_entries]
      exact ⟨0x00040020, by decide, by decide, by decide⟩
    have htag : Listed ((countingFirmware.memory 0).entries CSM_BASE.toNat)
        ⟨1, by decide⟩ 5 := by
      rw [counting_entries]
      exact ⟨0x00050001, by decide, by decide, by decide⟩
    have hbrief : turningCycles (s'.log.length - 1) < turningCycles 0 + 2 ^ 32 :=
      (turning_le _).trans_lt (by decide)
    obtain ⟨cycle, -, -, hvalues⟩ :=
      hdelivered.coherent 4 (by decide) hbeat (counting_beats 4) hbrief
    refine ⟨trace, thread', s', hrun, ?_⟩
    rw [hvalues _ 5 (by decide) (by decide) htag, hvalues _ 4 (by decide) (by decide) hbeat]
    exact (counting_word cycle 5).trans (counting_word cycle 4).symm

end TtDal.Safety.TelemetryDelivery
