import TtDal.Safety.SnapshotDecoding

/-!
# A snapshot comes from one cycle

The words of a snapshot are read one by one while the firmware goes on. A heartbeat that is the
same before and after means that no cycle passed in between, as long as the counter did not go
around, so the whole table is that of one cycle.
-/

namespace TtDal.Safety.SnapshotCoherence

open Effect Platform Dev Driver

open TagTable (Listed recordEntries recordEntries_eq_some)

/-- One attempt: whether the heartbeat was the same before and after. -/
def attempt (data : ℕ) (map : TagMap) (table : Ref) : Guarded Bool := do
  let tick ← deref (wordAddr data (map TT_TAG_TIMER_HEARTBEAT))
  fillTable data map table telemetryTags
  let tock ← deref (wordAddr data (map TT_TAG_TIMER_HEARTBEAT))
  return tick = tock

theorem attemptSnapshot_eq {map : TagMap} (hbeat : map TT_TAG_TIMER_HEARTBEAT ≠ unset)
    (data : ℕ) (table : Ref) (tries : ℕ) :
    attemptSnapshot data map table (tries + 1) = (do
      if ← attempt data map table then
        return .TT_OK ()
      else
        (modify (zeroTable table) : C Unit)
        attemptSnapshot data map table tries) := by
  rw [attemptSnapshot, if_pos hbeat, attempt]
  simp only [bind_assoc, pure_bind, decide_eq_true_eq]

section Reads

variable {firmware : Firmware} {thread : Thread} {times : Times} {data : ℕ} {map : TagMap}
  {table : Ref}

/-- The reads of a piece of code: when they were made, none of them earlier than one before. -/
def During (times during times' : Times) : Prop :=
  times' = during ++ times ∧ ∀ time ∈ during, ∀ earlier ∈ times, earlier ≤ time

theorem During.append {during during' times' times'' : Times} (h : During times during times')
    (h' : During times' during' times'') : During times (during' ++ during) times'' := by
  obtain ⟨rfl, hle⟩ := h
  obtain ⟨rfl, hle'⟩ := h'
  refine ⟨(List.append_assoc _ _ _).symm, fun time htime earlier hearlier ↦ ?_⟩
  rcases List.mem_append.mp htime with hlate | hsoon
  · exact hle' time hlate earlier (List.mem_append_right _ hearlier)
  · exact hle time hsoon earlier hearlier

theorem wp_read (addr : ℕ) :
    Procedure.wp firmware.contract (deref addr).run (fun _ res thread' times' ↦
      ∃ cycle, During times [cycle] times' ∧ ∀ word, res = .ok word →
        thread' = thread ∧ word = firmware.memory cycle addr) thread times := by
  rw [wp_deref]
  refine ⟨trivial, fun answer times' hanswer ↦ ?_⟩
  obtain ⟨cycle, hle, rfl, hword⟩ := hanswer
  have hduring : During times [cycle] (cycle :: times) := by
    refine ⟨rfl, fun time htime ↦ ?_⟩
    rw [List.mem_singleton.mp htime]
    exact hle
  cases answer with
  | some word =>
    refine ⟨cycle, hduring, fun word' heq ↦ ?_⟩
    cases heq
    exact ⟨rfl, hword word rfl⟩
  | none =>
    by_cases hhandled : handler thread.armed thread.prev { addr := addr, raised := false } =
        .recovered
    · simp only [if_pos hhandled]
      exact ⟨cycle, hduring, nofun⟩
    · simp only [if_neg hhandled]
      exact trivial

/-- What filling the table reads. -/
theorem wp_fillTable (tags : List (Fin TT_TELEMETRY_LEN)) (hnodup : tags.Nodup) :
    Procedure.wp firmware.contract (fillTable data map table tags).run (fun _ res thread' times' ↦
      ∃ during, During times during times' ∧ (res = .ok () →
        (∀ tag ∈ tags, map tag ≠ unset → ∃ cycle ∈ during,
          thread'.tables table tag = firmware.memory cycle (wordAddr data (map tag))) ∧
        ∀ tag, tag ∉ tags → thread'.tables table tag = thread.tables table tag))
      thread times := by
  induction tags generalizing thread times with
  | nil => exact ⟨[], ⟨rfl, by simp⟩, fun _ ↦ ⟨by simp, fun _ _ ↦ rfl⟩⟩
  | cons tag rest ih =>
    obtain ⟨hnot, hrest⟩ := List.nodup_cons.mp hnodup
    rw [fillTable]
    by_cases hset : map tag ≠ unset
    · rw [if_pos hset]
      refine wp_guarded (wp_read _) ?_ ?_
      · rintro trace word thread' times' ⟨cycle, hduring, hword⟩
        obtain ⟨rfl, rfl⟩ := hword _ rfl
        rw [wp_guarded_modify]
        refine Procedure.wp_mono (ih hrest) fun _ res thread'' times'' hout ↦ ?_
        obtain ⟨during, hduring', hfilled⟩ := hout
        refine ⟨during ++ [cycle], hduring.append hduring', fun hres ↦ ?_⟩
        obtain ⟨hlater, hkept⟩ := hfilled hres
        constructor
        · intro tag' hmem hset'
          rcases List.mem_cons.mp hmem with rfl | hmem
          · refine ⟨cycle, List.mem_append_right _ (List.mem_singleton_self _), ?_⟩
            rw [hkept tag' hnot]
            simp [storeTag]
          · obtain ⟨time, htime, hvalue⟩ := hlater tag' hmem hset'
            exact ⟨time, List.mem_append_left _ htime, hvalue⟩
        · intro tag' hmem
          have hne : tag' ≠ tag := fun heq ↦ hmem (heq ▸ List.mem_cons_self)
          rw [hkept tag' fun hmem' ↦ hmem (List.mem_cons_of_mem _ hmem')]
          simp [storeTag, Function.update_of_ne hne]
      · rintro trace thread' times' ⟨cycle, hduring, -⟩
        exact ⟨[cycle], hduring, by simp⟩
    · rw [if_neg hset]
      refine Procedure.wp_mono (ih hrest) fun _ res thread' times' hout ↦ ?_
      obtain ⟨during, hduring, hfilled⟩ := hout
      refine ⟨during, hduring, fun hres ↦ ?_⟩
      obtain ⟨hlater, hkept⟩ := hfilled hres
      constructor
      · intro tag' hmem hset'
        rcases List.mem_cons.mp hmem with rfl | hmem
        · exact absurd hset' hset
        · exact hlater tag' hmem hset'
      · exact fun tag' hmem ↦ hkept tag' fun hmem' ↦ hmem (List.mem_cons_of_mem _ hmem')

theorem telemetryTags_nodup : telemetryTags.Nodup := (List.nodup_finRange _).tail

/-- At one of the times between two reads, the table holds the words of that cycle. -/
def Coherent (firmware : Firmware) (data : ℕ) (map : TagMap) (values : Telemetry)
    (during : Times) : Prop :=
  ∃ cycle, (∃ first ∈ during, first ≤ cycle) ∧ (∃ last ∈ during, cycle ≤ last) ∧
    ∀ tag : Fin TT_TELEMETRY_LEN, (tag : ℕ) ≠ 0 → map tag ≠ unset →
      values tag = firmware.memory cycle (wordAddr data (map tag))

/-- Fewer cycles pass than it takes the heartbeat to come around. -/
def Brief (during : Times) : Prop :=
  ∀ first ∈ during, ∀ last ∈ during, last < first + 2 ^ 32

/-- The first read and the last one saw the same cycle, so every read between them did. -/
theorem coherent_of_stable {tick tock : ℕ} {during : Times} {values : Telemetry}
    (hbeats : firmware.Beats (wordAddr data (map TT_TAG_TIMER_HEARTBEAT)))
    (hfirst : ∀ time ∈ during, tick ≤ time) (hlast : ∀ time ∈ during, time ≤ tock)
    (hle : tick ≤ tock) (hbrief : tock < tick + 2 ^ 32)
    (hstable : firmware.memory tick (wordAddr data (map TT_TAG_TIMER_HEARTBEAT)) =
      firmware.memory tock (wordAddr data (map TT_TAG_TIMER_HEARTBEAT)))
    (hfilled : ∀ tag : Fin TT_TELEMETRY_LEN, (tag : ℕ) ≠ 0 → map tag ≠ unset →
      ∃ cycle ∈ during, values tag = firmware.memory cycle (wordAddr data (map tag)))
    (tag : Fin TT_TELEMETRY_LEN) (hzero : (tag : ℕ) ≠ 0) (hset : map tag ≠ unset) :
    values tag = firmware.memory tick (wordAddr data (map tag)) := by
  have hsame : tock = tick := hbeats.cycle_eq hle hbrief hstable
  obtain ⟨cycle, hcycle, hvalue⟩ := hfilled tag hzero hset
  have heq : cycle = tick := by
    have hafter := hfirst cycle hcycle
    have hbefore := hlast cycle hcycle
    omega
  rw [hvalue, heq]

theorem wp_attempt (hbeats : firmware.Beats (wordAddr data (map TT_TAG_TIMER_HEARTBEAT))) :
    Procedure.wp firmware.contract (attempt data map table).run (fun _ res thread' times' ↦
      ∃ during, During times during times' ∧ (res = .ok true → Brief during →
        Coherent firmware data map (thread'.tables table) during)) thread times := by
  unfold attempt
  refine wp_guarded (wp_read _) ?_ ?_
  · rintro _ word thread₁ times₁ ⟨tick, htick, hword⟩
    obtain ⟨rfl, rfl⟩ := hword _ rfl
    refine wp_guarded (wp_fillTable telemetryTags telemetryTags_nodup) ?_ ?_
    · rintro _ value thread₂ times₂ ⟨filled, hfilled, hvalues⟩
      obtain ⟨hvalues, -⟩ := hvalues rfl
      refine wp_guarded (wp_read _) ?_ ?_
      · rintro _ word thread₃ times₃ ⟨tock, htock, hword⟩
        obtain ⟨rfl, rfl⟩ := hword _ rfl
        refine ⟨_, (htick.append hfilled).append htock, fun hres hbrief ↦ ?_⟩
        have hstable := of_decide_eq_true (Except.ok.inj hres)
        have htick_mem : tick ∈ times₁ := by simp [htick.1]
        have hfirst : ∀ time ∈ filled, tick ≤ time :=
          fun time htime ↦ hfilled.2 time htime tick htick_mem
        have hbefore : ∀ time ∈ times₂, time ≤ tock := htock.2 tock (List.mem_singleton_self _)
        have hlast : ∀ time ∈ filled, time ≤ tock :=
          fun time htime ↦ hbefore time (by simp [hfilled.1, htime])
        have hle : tick ≤ tock := hbefore tick (by simp [hfilled.1, htick_mem])
        have hlt : tock < tick + 2 ^ 32 := hbrief tick (by simp) tock (by simp)
        refine ⟨tick, ⟨tick, by simp, le_rfl⟩, ⟨tock, by simp, hle⟩, ?_⟩
        apply coherent_of_stable hbeats hfirst hlast hle hlt hstable
        exact fun tag hzero ↦ hvalues tag (SnapshotDecoding.mem_telemetryTags.mpr hzero)
      · rintro _ thread₃ times₃ ⟨tock, htock, -⟩
        exact ⟨_, (htick.append hfilled).append htock, nofun⟩
    · rintro _ thread₂ times₂ ⟨filled, hfilled, -⟩
      exact ⟨_, htick.append hfilled, nofun⟩
  · rintro _ thread₁ times₁ ⟨tick, htick, -⟩
    exact ⟨_, htick, nofun⟩

/-- What reading the entries makes of them. -/
theorem wp_readEntries {tbl : ℕ} (hpublishes : firmware.Publishes tbl) (idxs : List ℕ)
    (hidxs : ∀ idx ∈ idxs, idx < TELEM_ENTRY_CAP) (map : TagMap) :
    Procedure.wp firmware.contract (readEntries tbl idxs map).run (fun _ res _ _ ↦
      ∀ out, res = .ok out →
        out = recordEntries (idxs.map ((firmware.memory 0).entry tbl)) map) thread times := by
  induction idxs generalizing map thread times with
  | nil =>
    rintro out heq
    cases heq
    rfl
  | cons idx rest ih =>
    rw [readEntries]
    refine wp_guarded (wp_read _) ?_ ?_
    · rintro _ word thread' times' ⟨cycle, -, hword⟩
      obtain ⟨rfl, rfl⟩ := hword _ rfl
      have hentry : firmware.memory cycle (tbl + 4 * (2 + idx)) =
          (firmware.memory 0).entry tbl idx :=
        hpublishes.entry cycle idx (hidxs idx List.mem_cons_self)
      rw [hentry, List.map_cons, recordEntries]
      cases recordEntry map ((firmware.memory 0).entry tbl idx) with
      | none =>
        rintro out heq
        cases heq
        rfl
      | some map' =>
        have hrest := fun idx hidx ↦ hidxs idx (List.mem_cons_of_mem _ hidx)
        exact Procedure.wp_mono (ih hrest map') fun _ _ _ _ hout ↦ hout
    · exact fun _ _ _ _ ↦ by simp

end Reads

/-! ## The last attempt -/

section Runs

variable {W : Type} {contract : Contract Sys W} {firmware : Firmware} {thread thread' : Thread}
  {w w' : W} {times times' : Times} {tbl data : ℕ} {map : TagMap} {table : Ref}
  {trace : List (Event Sys)}

/-- A success is that of an attempt. -/
theorem attemptSnapshot_last (hbeat : map TT_TAG_TIMER_HEARTBEAT ≠ unset) (tries : ℕ)
    (hrun : Procedure.Executes contract (attemptSnapshot data map table tries).run thread w trace
      (.ok (.TT_OK ())) thread' w') :
    ∃ first last thread₁ w₁, trace = first ++ last ∧
      Procedure.Executes contract (attempt data map table).run thread₁ w₁ last (.ok true)
        thread' w' := by
  induction tries generalizing thread w trace with
  | zero => cases hrun
  | succ tries ih =>
    rw [attemptSnapshot_eq hbeat, executes_guarded] at hrun
    obtain ⟨first, rest, stable, thread₁, w₁, rfl, hattempt, hrest⟩ := hrun
    cases stable with
    | true =>
      obtain ⟨rfl, -, rfl, rfl⟩ := Procedure.executes_pure.mp hrest
      exact ⟨[], first, thread, w, List.append_nil _, hattempt⟩
    | false =>
      have hretry : Procedure.Executes contract (attemptSnapshot data map table tries).run
          (zeroTable table thread₁) w₁ rest (.ok (.TT_OK ())) thread' w' := hrest
      obtain ⟨first', last, thread₂, w₂, rfl, hlast⟩ := ih hretry
      exact ⟨first ++ first', last, thread₂, w₂, (List.append_assoc _ _ _).symm, hlast⟩

/-- A success is that of an attempt with the offsets the tag table lists. -/
theorem snapshot_last (hpublishes : firmware.Publishes tbl) {off : UInt16} (hoff : off ≠ unset)
    (hbeat : Listed ((firmware.memory 0).entries tbl) TT_TAG_TIMER_HEARTBEAT off)
    (hrun : Procedure.Executes firmware.contract (snapshot tbl data table).run thread times trace
      (.ok (.TT_OK ())) thread' times') :
    ∃ map first last thread₁ times₁,
      recordEntries ((firmware.memory 0).entries tbl) (fun _ ↦ unset) = some map ∧
      trace = first ++ last ∧
      Procedure.Executes firmware.contract (attempt data map table).run thread₁ times₁ last
        (.ok true) thread' times' := by
  rw [snapshot, executes_guarded] at hrun
  obtain ⟨first, rest, count, thread₁, times₁, rfl, hcount, hrest⟩ := hrun
  obtain ⟨cycle, -, hword⟩ := hcount.ensures (wp_read (tbl + 4))
  obtain ⟨rfl, rfl⟩ := hword count rfl
  rw [hpublishes.count cycle] at hrest
  obtain ⟨front, rest', out, thread₂, times₂, rfl, hentries, hattempts⟩ :=
    executes_guarded.mp hrest
  have hrecorded := hentries.ensures (wp_readEntries hpublishes _
    (fun idx hidx ↦ lt_of_lt_of_le (List.mem_range.mp hidx) (min_le_right _ _)) _) out rfl
  cases out with
  | none => cases hattempts
  | some map =>
    have hmap : map TT_TAG_TIMER_HEARTBEAT = off :=
      (recordEntries_eq_some hrecorded.symm (by decide) hoff).mpr (.inr hbeat)
    obtain ⟨front', last, thread₃, times₃, rfl, hlast⟩ :=
      attemptSnapshot_last (hmap ▸ hoff) 3 hattempts
    refine ⟨map, first ++ (front ++ front'), last, thread₃, times₃, hrecorded.symm, ?_, hlast⟩
    simp only [List.append_assoc]

/-- Whenever a snapshot succeeds, every value in the table is the word its tag's offset names at
one and the same time during the last attempt. -/
theorem snapshot_coherent (hpublishes : firmware.Publishes tbl) {off : UInt16}
    (hoff : off ≠ unset)
    (hbeat : Listed ((firmware.memory 0).entries tbl) TT_TAG_TIMER_HEARTBEAT off)
    (hbeats : firmware.Beats (wordAddr data off))
    (hrun : Procedure.Executes firmware.contract (snapshot tbl data table).run thread times trace
      (.ok (.TT_OK ())) thread' times') :
    ∃ map first last thread₁ times₁ during,
      recordEntries ((firmware.memory 0).entries tbl) (fun _ ↦ unset) = some map ∧
      trace = first ++ last ∧
      Procedure.Executes firmware.contract (attempt data map table).run thread₁ times₁ last
        (.ok true) thread' times' ∧
      times' = during ++ times₁ ∧
      (Brief during → ∃ cycle, (∃ first ∈ during, first ≤ cycle) ∧
        (∃ last ∈ during, cycle ≤ last) ∧
        ∀ (tag : Fin TT_TELEMETRY_LEN) (off : UInt16), (tag : ℕ) ≠ 0 → off ≠ unset →
          Listed ((firmware.memory 0).entries tbl) tag off →
          thread'.tables table tag = firmware.memory cycle (wordAddr data off)) := by
  obtain ⟨map, first, last, thread₁, times₁, hmap, htrace, hlast⟩ :=
    snapshot_last hpublishes hoff hbeat hrun
  have hlisted : ∀ {tag : Fin TT_TELEMETRY_LEN} {off : UInt16}, (tag : ℕ) ≠ 0 → off ≠ unset →
      Listed ((firmware.memory 0).entries tbl) tag off → map tag = off :=
    fun hzero hoff hmem ↦ (recordEntries_eq_some hmap hzero hoff).mpr (.inr hmem)
  have hheart : map TT_TAG_TIMER_HEARTBEAT = off := hlisted (by decide) hoff hbeat
  rw [← hheart] at hbeats
  obtain ⟨during, hduring, hcoherent⟩ := hlast.ensures (wp_attempt hbeats)
  refine ⟨map, first, last, thread₁, times₁, during, hmap, htrace, hlast, hduring.1,
    fun hbrief ↦ ?_⟩
  obtain ⟨cycle, hfirst, hafter, hvalues⟩ := hcoherent rfl hbrief
  refine ⟨cycle, hfirst, hafter, fun tag off hzero hoff hmem ↦ ?_⟩
  have htag : map tag = off := hlisted hzero hoff hmem
  rw [hvalues tag hzero (htag ▸ hoff), htag]

end Runs

/-! ## A cycle that passes between two reads -/

section Schedules

variable {α β : Type} {firmware : Firmware} {times times₁ times' : Times} {data cycle last : ℕ}
  {map : TagMap} {table : Ref}

/-- The code may return this value, where its reads take the times from one list to the other. -/
def MayReturn (firmware : Firmware) (code : Guarded α) (value : α) (times times' : Times) : Prop :=
  ∀ thread, ∃ trace thread', Procedure.Executes firmware.contract code.run thread times trace
    (.ok value) thread' times'

theorem mayReturn_pure (value : α) : MayReturn firmware (pure value) value times times :=
  fun thread ↦ ⟨[], thread, .done⟩

theorem mayReturn_read (addr : ℕ) (hle : ∀ time ∈ times, time ≤ cycle) :
    MayReturn firmware (deref addr) (firmware.memory cycle addr) times (cycle :: times) := by
  intro thread
  have hanswer : firmware.contract.answers (.load thread.armed addr) times
      (some (firmware.memory cycle addr)) (cycle :: times) :=
    ⟨cycle, hle, rfl, fun word heq ↦ (Option.some.inj heq).symm⟩
  exact ⟨_, thread, .call hanswer .done⟩

theorem MayReturn.bind {first : Guarded α} {f : α → Guarded β} {middle : α} {value : β}
    (h : MayReturn firmware first middle times times₁)
    (h' : MayReturn firmware (f middle) value times₁ times') :
    MayReturn firmware (first >>= f) value times times' := by
  intro thread
  obtain ⟨front, thread₁, hfirst⟩ := h thread
  obtain ⟨rest, thread', hrest⟩ := h' thread₁
  exact ⟨front ++ rest, thread',
    executes_guarded.mpr ⟨front, rest, middle, thread₁, times₁, rfl, hfirst, hrest⟩⟩

theorem MayReturn.modify {f : Thread → Thread} {next : PUnit → Guarded β} {value : β}
    (h : MayReturn firmware (next ⟨⟩) value times times') :
    MayReturn firmware ((modify f : C PUnit) >>= next : Guarded β) value times times' :=
  fun thread ↦ h (f thread)

/-- The words may all be read in one cycle. -/
theorem mayReturn_fillTable (hle : ∀ time ∈ times, time ≤ cycle)
    (tags : List (Fin TT_TELEMETRY_LEN)) : ∃ during, (∀ time ∈ during, time = cycle) ∧
      MayReturn firmware (fillTable data map table tags) () times (during ++ times) := by
  induction tags generalizing times with
  | nil => exact ⟨[], nofun, mayReturn_pure ()⟩
  | cons tag tags ih =>
    rw [fillTable]
    split
    · have hle' : ∀ time ∈ cycle :: times, time ≤ cycle :=
        List.forall_mem_cons.mpr ⟨le_rfl, hle⟩
      obtain ⟨during, hsame, hrest⟩ := ih hle'
      refine ⟨during ++ [cycle], ?_, (mayReturn_read _ hle).bind (.modify ?_)⟩
      · exact List.forall_mem_append.mpr ⟨hsame, fun _ hmem ↦ List.mem_singleton.mp hmem⟩
      · rw [List.append_assoc]
        exact hrest
    · exact ih hle

/-- The heartbeat may be read again in a later cycle than the words. -/
theorem mayReturn_attempt (hle : ∀ time ∈ times, time ≤ cycle) (hlast : cycle ≤ last) :
    ∃ during, (∀ time ∈ during, time ≤ last) ∧ last ∈ during ∧
      MayReturn firmware (attempt data map table)
        (firmware.memory cycle (wordAddr data (map TT_TAG_TIMER_HEARTBEAT)) =
          firmware.memory last (wordAddr data (map TT_TAG_TIMER_HEARTBEAT)))
        times (during ++ times) := by
  have hle₁ : ∀ time ∈ cycle :: times, time ≤ cycle := List.forall_mem_cons.mpr ⟨le_rfl, hle⟩
  obtain ⟨during, hsame, hfill⟩ :=
    @mayReturn_fillTable firmware _ data cycle map table hle₁ telemetryTags
  have hle₂ : ∀ time ∈ during ++ cycle :: times, time ≤ last :=
    List.forall_mem_append.mpr
      ⟨fun time hmem ↦ (hsame time hmem).trans_le hlast,
        fun time hmem ↦ (hle₁ time hmem).trans hlast⟩
  refine ⟨last :: during ++ [cycle], ?_, List.mem_cons_self, ?_⟩
  · refine List.forall_mem_append.mpr ⟨List.forall_mem_cons.mpr ⟨le_rfl, ?_⟩, ?_⟩
    · exact fun time hmem ↦ (hsame time hmem).trans_le hlast
    · exact fun time hmem ↦ (List.mem_singleton.mp hmem).trans_le hlast
  · rw [List.append_assoc]
    exact (mayReturn_read _ hle).bind (hfill.bind ((mayReturn_read _ hle₂).bind (mayReturn_pure _)))

end Schedules

/-- A tag besides the heartbeat. -/
def sampleTag : Fin TT_TELEMETRY_LEN := ⟨1, by decide⟩

/-- The heartbeat counts cycles, and the word of the other tag is a hundred ahead of it. -/
def sampleFirmware : Firmware where
  memory cycle addr :=
    if addr = 4096 then UInt32.ofNat cycle
    else if addr = 4100 then UInt32.ofNat cycle + 100
    else if addr = 4 then 2
    else if addr = 8 then 0x00000020
    else if addr = 12 then 0x00010001
    else 0

theorem sampleFirmware_publishes : sampleFirmware.Publishes 0 where
  count _ := rfl
  entry cycle idx hidx := by
    unfold TELEM_ENTRY_CAP at hidx
    have hbeat : 0 + 4 * (2 + idx) ≠ 4096 := by omega
    have htag : 0 + 4 * (2 + idx) ≠ 4100 := by omega
    simp only [Memory.entry, sampleFirmware, if_neg hbeat, if_neg htag]

theorem sampleFirmware_beats : sampleFirmware.Beats (wordAddr 4096 0) := by
  intro cycle
  have hcount : ∀ n, sampleFirmware.memory n (wordAddr 4096 0) = UInt32.ofNat n := fun _ ↦ rfl
  rw [hcount, hcount, UInt32.ofNat_add]
  rfl

theorem sampleFirmware_entries :
    (sampleFirmware.memory 0).entries 0 = [0x00000020, 0x00010001] := by
  decide

/-- A cycle passes before the heartbeat is read again, and the second attempt succeeds. -/
theorem sampleFirmware_runs : ∃ times', 0 ∈ times' ∧ 1 ∈ times' ∧ (∀ time ∈ times', time ≤ 1) ∧
    MayReturn sampleFirmware (snapshot 0 4096 0) (.TT_OK ()) [] times' := by
  let map : TagMap :=
    Function.update (Function.update (fun _ ↦ unset) TT_TAG_TIMER_HEARTBEAT 0) sampleTag 1
  have hbeat : map TT_TAG_TIMER_HEARTBEAT ≠ unset := by decide
  have hread (addr : ℕ) (times : Times) (hle : ∀ time ∈ times, time ≤ 0) :
      MayReturn sampleFirmware (deref addr) (sampleFirmware.memory 0 addr) times (0 :: times) :=
    mayReturn_read addr hle
  have hentries : MayReturn sampleFirmware (readEntries 0 [0, 1] fun _ ↦ unset) (some map)
      [0] [0, 0, 0] :=
    (hread _ [0] (by decide)).bind ((hread _ [0, 0] (by decide)).bind (mayReturn_pure _))
  obtain ⟨first, hfirst, hpassed, hfails⟩ :=
    @mayReturn_attempt sampleFirmware [0, 0, 0] 4096 0 1 map 0 (by decide) (by decide)
  have hle : ∀ time ∈ first ++ [0, 0, 0], time ≤ 1 :=
    List.forall_mem_append.mpr ⟨hfirst, by decide⟩
  obtain ⟨last, hlast, -, hholds⟩ := @mayReturn_attempt sampleFirmware _ 4096 1 1 map 0 hle le_rfl
  refine ⟨last ++ (first ++ [0, 0, 0]), by simp, by simp [hpassed], ?_, ?_⟩
  · exact List.forall_mem_append.mpr ⟨hlast, hle⟩
  · have hretry : MayReturn sampleFirmware (attemptSnapshot 4096 map 0 3) (.TT_OK ()) [0, 0, 0]
        (last ++ (first ++ [0, 0, 0])) := by
      rw [attemptSnapshot_eq hbeat]
      refine hfails.bind (.modify ?_)
      rw [attemptSnapshot_eq hbeat]
      exact hholds.bind (mayReturn_pure _)
    exact (hread _ [] (by decide)).bind (hentries.bind hretry)

/-- The second value belongs to the first. -/
theorem sampleFirmware_coherent : ∃ trace thread' times',
    Procedure.Executes sampleFirmware.contract (snapshot 0 4096 0).run Thread.initial [] trace
      (.ok (.TT_OK ())) thread' times' ∧ 0 ∈ times' ∧ 1 ∈ times' ∧
    thread'.tables 0 sampleTag = thread'.tables 0 TT_TAG_TIMER_HEARTBEAT + 100 := by
  obtain ⟨times', hzero, hone, hle, hruns⟩ := sampleFirmware_runs
  obtain ⟨trace, thread', hrun⟩ := hruns Thread.initial
  have hoff : (0 : UInt16) ≠ unset := by decide
  have hbeat : Listed ((sampleFirmware.memory 0).entries 0) TT_TAG_TIMER_HEARTBEAT 0 := by
    rw [sampleFirmware_entries]
    exact ⟨0x00000020, by simp, by decide, by decide⟩
  have htag : Listed ((sampleFirmware.memory 0).entries 0) sampleTag 1 := by
    rw [sampleFirmware_entries]
    exact ⟨0x00010001, by simp, by decide, by decide⟩
  obtain ⟨_, _, _, _, _, during, -, -, -, rfl, hcoherent⟩ :=
    snapshot_coherent sampleFirmware_publishes hoff hbeat sampleFirmware_beats hrun
  have hbrief : Brief during := by
    intro first _ last hlast
    exact (hle last (List.mem_append_left _ hlast)).trans_lt (by omega)
  obtain ⟨cycle, -, -, hvalues⟩ := hcoherent hbrief
  refine ⟨trace, thread', _, hrun, hzero, hone, ?_⟩
  rw [hvalues sampleTag 1 (by decide) (by decide) htag,
    hvalues TT_TAG_TIMER_HEARTBEAT 0 (by decide) hoff hbeat]
  rfl

end TtDal.Safety.SnapshotCoherence
