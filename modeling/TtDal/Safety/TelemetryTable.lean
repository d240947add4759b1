import TtDal.Safety.SnapshotCoherence
import TtDal.Safety.TelemetryCalls

/-!
# The caller's telemetry table

Telemetry zeroes the caller's table, fills it word by word, and zeroes it again when the heartbeat
moved. A fault in the middle of an attempt leaves the words that the attempt stored so far.
-/

namespace TtDal.Safety.TelemetryTable

open Effect Platform Dev Driver GuardedReads TagTable TelemetryCalls

open SnapshotCoherence (attempt attemptSnapshot_eq telemetryTags_nodup)

open SnapshotDecoding (mem_telemetryTags)

/-! ## The words of a run -/

/-- The words that were read. -/
def words (trace : List (Event Sys)) : List UInt32 :=
  trace.filterMap fun
    | ⟨.load _ _, some word⟩ => some word
    | _ => none

/-- How many words an attempt stores. -/
def listedTags (map : TagMap) (tags : List (Fin TT_TELEMETRY_LEN)) : ℕ :=
  tags.countP (map · ≠ unset)

/-- What the attempt under way has stored of the data words read so far. An attempt reads the
heartbeat, then the words it stores, then the heartbeat again. -/
def underway (map : TagMap) (reads : List UInt32) : List UInt32 :=
  let size := listedTags map telemetryTags
  if map TT_TAG_TIMER_HEARTBEAT = unset then
    reads.take size
  else
    (reads.drop (reads.length / (size + 2) * (size + 2))).tail

/-- The tags that are listed and the words stored for them, when a fault ends the reads. The reads
begin with the two pointers and the entry count, and go on with the entries. -/
def fill (reads : List UInt32) : Option (TagMap × List UInt32) :=
  match reads.drop 2 with
  | [] => none
  | count :: rest =>
    let entries := min count.toNat TELEM_ENTRY_CAP
    (recordEntries (rest.take entries) fun _ ↦ unset).map fun map ↦
      (map, underway map (rest.drop entries))

/-- The words that a fault leaves in the table. -/
def stored (reads : List UInt32) : List UInt32 :=
  (fill reads).elim [] Prod.snd

/-- Store words for the tags that are listed, in their order, while there are words. -/
def spread (map : TagMap) : List (Fin TT_TELEMETRY_LEN) → List UInt32 → Telemetry → Telemetry
  | [], _, values => values
  | tag :: tags, reads, values =>
    if map tag ≠ unset then
      match reads with
      | [] => values
      | word :: reads => spread map tags reads (Function.update values tag word)
    else
      spread map tags reads values

/-- The table that a fault leaves. -/
def left (reads : List UInt32) : Telemetry :=
  (fill reads).elim (fun _ ↦ 0) fun (map, stored) ↦ spread map telemetryTags stored fun _ ↦ 0

section Words

variable {map : TagMap} {tag : Fin TT_TELEMETRY_LEN} {tags : List (Fin TT_TELEMETRY_LEN)}
  {chunk reads : List UInt32} {values : Telemetry} {trace trace' : List (Event Sys)}

theorem words_append : words (trace ++ trace') = words trace ++ words trace' :=
  List.filterMap_append

theorem words_load {guard : Guard} {addr : ℕ} {word : UInt32} :
    words (⟨.load guard addr, some word⟩ :: trace) = word :: words trace := rfl

theorem words_fault {guard : Guard} {addr : ℕ} :
    words (⟨.load guard addr, none⟩ :: trace) = words trace := rfl

theorem words_nil : words [] = [] := rfl

theorem spread_nil : spread map tags [] values = values := by
  induction tags generalizing values with
  | nil => rfl
  | cons tag tags ih =>
    unfold spread
    split
    · rfl
    · exact ih

theorem spread_cons {word : UInt32} (h : map tag ≠ unset) :
    spread map (tag :: tags) (word :: reads) values =
      spread map tags reads (Function.update values tag word) :=
  if_pos h

theorem spread_skip (h : ¬map tag ≠ unset) :
    spread map (tag :: tags) reads values = spread map tags reads values :=
  if_neg h

theorem listedTags_cons (h : map tag ≠ unset) :
    listedTags map (tag :: tags) = listedTags map tags + 1 :=
  List.countP_cons_of_pos (decide_eq_true h)

theorem listedTags_skip (h : ¬map tag ≠ unset) :
    listedTags map (tag :: tags) = listedTags map tags :=
  List.countP_cons_of_neg (by simpa using h)

theorem spread_of_notMem (h : tag ∉ tags) : spread map tags reads values tag = values tag := by
  induction tags generalizing reads values with
  | nil => rfl
  | cons head tags ih =>
    have hne : tag ≠ head := List.ne_of_not_mem_cons h
    have hrest : tag ∉ tags := List.not_mem_of_not_mem_cons h
    by_cases hset : map head ≠ unset
    · cases reads with
      | nil => rw [spread_nil]
      | cons word reads =>
        rw [spread_cons hset, ih hrest]
        exact Function.update_of_ne hne _ _
    · rw [spread_skip hset]
      exact ih hrest

/-- Every word is stored for a tag of its own. -/
theorem spread_eq_zero_iff (hnodup : tags.Nodup) (hlength : reads.length ≤ listedTags map tags)
    (hzero : ∀ tag ∈ tags, values tag = 0) :
    (∀ tag ∈ tags, spread map tags reads values tag = 0) ↔ ∀ word ∈ reads, word = 0 := by
  induction tags generalizing reads values with
  | nil =>
    have hnil : reads = [] := List.eq_nil_of_length_eq_zero (Nat.le_zero.mp hlength)
    simp [hnil]
  | cons tag tags ih =>
    obtain ⟨hfresh, hnodup⟩ := List.nodup_cons.mp hnodup
    obtain ⟨hhead, htail⟩ := List.forall_mem_cons.mp hzero
    rw [List.forall_mem_cons]
    by_cases hset : map tag ≠ unset
    · rw [listedTags_cons hset] at hlength
      cases reads with
      | nil => simpa [spread_nil, hhead] using htail
      | cons word reads =>
        have hvalues : ∀ other ∈ tags, Function.update values tag word other = 0 := by
          intro other hother
          have hne : other ≠ tag := fun heq ↦ hfresh (heq ▸ hother)
          rw [Function.update_of_ne hne]
          exact htail other hother
        rw [List.forall_mem_cons, spread_cons hset, spread_of_notMem hfresh, Function.update_self,
          ih hnodup (Nat.le_of_succ_le_succ hlength) hvalues]
    · rw [listedTags_skip hset] at hlength
      rw [spread_skip hset, spread_of_notMem hfresh, ih hnodup hlength htail, and_iff_right hhead]

/-- No more words are stored than tags are listed. -/
theorem length_underway_le : (underway map reads).length ≤ listedTags map telemetryTags := by
  unfold underway
  split
  · exact List.length_take_le _ _
  · have hpositive : 0 < listedTags map telemetryTags + 2 := by omega
    have hlt := Nat.mod_lt reads.length hpositive
    rw [List.length_tail, List.length_drop, Nat.mul_comm, ← Nat.mod_eq_sub]
    omega

/-- A whole attempt whose heartbeat moved leaves nothing behind. -/
theorem underway_append (hbeat : map TT_TAG_TIMER_HEARTBEAT ≠ unset)
    (hchunk : chunk.length = listedTags map telemetryTags + 2) :
    underway map (chunk ++ reads) = underway map reads := by
  have hpositive : 0 < chunk.length := by omega
  unfold underway
  simp only [if_neg hbeat, ← hchunk]
  rw [List.length_append, Nat.add_div_left _ hpositive, Nat.succ_mul, Nat.add_comm,
    ← List.drop_drop, List.drop_left]

/-- The words after the heartbeat, while an attempt is under way. -/
theorem underway_cons {tick : UInt32} (hbeat : map TT_TAG_TIMER_HEARTBEAT ≠ unset)
    (hlength : reads.length ≤ listedTags map telemetryTags) : underway map (tick :: reads) = reads := by
  have hzero : (tick :: reads).length / (listedTags map telemetryTags + 2) = 0 :=
    Nat.div_eq_of_lt (by
      rw [List.length_cons]
      omega)
  unfold underway
  rw [if_neg hbeat, hzero, Nat.zero_mul, List.drop_zero, List.tail_cons]

theorem underway_nil : underway map [] = [] := by
  simp [underway]

end Words

/-! ## The guarded code -/

section Reads

variable {data tbl : ℕ} {table : Ref} {map : TagMap} {thread : Thread}

@[simp]
theorem storeTag_tables (tag : Fin TT_TELEMETRY_LEN) (word : UInt32) :
    (storeTag table tag word thread).tables table =
      Function.update (thread.tables table) tag word :=
  Function.update_self _ _ _

@[simp]
theorem zeroTable_tables : (zeroTable table thread).tables table = fun _ ↦ 0 :=
  Function.update_self _ _ _

theorem wp_fillTable (tags : List (Fin TT_TELEMETRY_LEN)) :
    Procedure.wp .anything (fillTable data map table tags).run (fun trace res thread' _ ↦
      thread'.tables table = spread map tags (words trace) (thread.tables table) ∧
      (words trace).length ≤ listedTags map tags ∧
      (res = .ok () → (words trace).length = listedTags map tags)) thread () := by
  induction tags generalizing thread with
  | nil => exact ⟨rfl, Nat.le_refl _, fun _ ↦ rfl⟩
  | cons tag tags ih =>
    unfold fillTable
    by_cases hset : map tag ≠ unset
    · rw [if_pos hset, listedTags_cons hset]
      refine wp_read_anything (fun word ↦ ?_) ⟨spread_nil.symm, Nat.zero_le _, by simp⟩
      rw [wp_guarded_modify]
      refine Procedure.wp_mono ih fun trace res thread' _ hfill ↦ ?_
      obtain ⟨htable, hle, hlength⟩ := hfill
      rw [storeTag_tables] at htable
      refine ⟨htable.trans (spread_cons hset).symm, Nat.succ_le_succ hle, fun hres ↦ ?_⟩
      exact congrArg (· + 1) (hlength hres)
    · rw [if_neg hset, listedTags_skip hset]
      refine Procedure.wp_mono ih fun trace res thread' _ hfill ↦ ?_
      exact ⟨hfill.1.trans (spread_skip hset).symm, hfill.2⟩

/-- A fault leaves what the attempt has stored, and a whole attempt reads the heartbeat twice. -/
theorem wp_attempt (hbeat : map TT_TAG_TIMER_HEARTBEAT ≠ unset)
    (hzero : thread.tables table = fun _ ↦ 0) :
    Procedure.wp .anything (attempt data map table).run (fun trace res thread' _ ↦
      (res = .error () → thread'.tables table =
        spread map telemetryTags (underway map (words trace)) fun _ ↦ 0) ∧
      (res ≠ .error () → (words trace).length = listedTags map telemetryTags + 2)) thread () := by
  refine wp_read_anything (fun tick ↦ ?_) ⟨fun _ ↦ ?_, fun hres ↦ absurd rfl hres⟩
  · refine wp_guarded (wp_fillTable telemetryTags) ?_ ?_
    · rintro filling done thread₁ _ ⟨htable, hle, hlength⟩
      refine wp_read_anything (fun tock ↦ ⟨nofun, fun _ ↦ ?_⟩) ⟨fun _ ↦ ?_, fun hres ↦ absurd rfl hres⟩
      · rw [words_load, words_append, words_load, words_nil, List.length_cons, List.length_append,
          hlength rfl]
        rfl
      · rw [words_load, words_append, words_fault, words_nil, List.append_nil,
          underway_cons hbeat hle, ← hzero]
        exact htable
    · rintro filling thread₁ _ ⟨htable, hle, -⟩
      refine ⟨fun _ ↦ ?_, fun hres ↦ absurd rfl hres⟩
      rw [words_load, underway_cons hbeat hle, ← hzero]
      exact htable
  · rw [words_fault, words_nil, underway_nil, spread_nil]
    exact hzero

/-- A fault leaves what the attempt under way has stored, and a failure leaves zeroes. -/
theorem wp_attemptSnapshot (tries : ℕ) (hzero : thread.tables table = fun _ ↦ 0) :
    Procedure.wp .anything (attemptSnapshot data map table tries).run (fun trace res thread' _ ↦
      (res = .error () → thread'.tables table =
        spread map telemetryTags (underway map (words trace)) fun _ ↦ 0) ∧
      (res = .ok .TT_ERR → thread'.tables table = fun _ ↦ 0)) thread () := by
  by_cases hbeat : map TT_TAG_TIMER_HEARTBEAT ≠ unset
  · induction tries generalizing thread with
    | zero => exact ⟨nofun, fun _ ↦ hzero⟩
    | succ tries ih =>
      rw [attemptSnapshot_eq hbeat]
      refine wp_guarded (wp_attempt hbeat hzero) ?_ ?_
      · rintro reads stable thread₁ _ ⟨-, hlength⟩
        have hwhole : (words reads).length = listedTags map telemetryTags + 2 := hlength nofun
        cases stable with
        | true => exact ⟨nofun, nofun⟩
        | false =>
          rw [if_neg Bool.false_ne_true, wp_guarded_modify]
          refine Procedure.wp_mono (ih zeroTable_tables) fun rest res thread' _ hrest ↦ ?_
          refine ⟨fun hres ↦ ?_, hrest.2⟩
          rw [words_append, underway_append hbeat hwhole]
          exact hrest.1 hres
      · rintro reads thread' _ ⟨hfault, -⟩
        exact ⟨fun _ ↦ hfault rfl, nofun⟩
  · cases tries with
    | zero => exact ⟨nofun, fun _ ↦ hzero⟩
    | succ tries =>
      rw [attemptSnapshot, if_neg hbeat]
      refine wp_guarded (wp_fillTable telemetryTags) ?_ ?_
      · rintro filling done thread₁ _ -
        exact ⟨nofun, nofun⟩
      · rintro filling thread' _ ⟨htable, hle, -⟩
        have hwhole : underway map (words filling) = words filling := by
          rw [underway, if_pos (not_not.mp hbeat)]
          exact List.take_of_length_le hle
        refine ⟨fun _ ↦ ?_, nofun⟩
        rw [hwhole, ← hzero]
        exact htable

/-- The entries that were read were recorded, unless a tag was repeated. -/
theorem wp_readEntries (idxs : List ℕ) (map : TagMap) :
    Procedure.wp .anything (readEntries tbl idxs map).run (fun trace res thread' _ ↦
      thread'.tables = thread.tables ∧ (words trace).length ≤ idxs.length ∧
      ∀ map', res = .ok (some map') → (words trace).length = idxs.length ∧
        recordEntries (words trace) map = some map') thread () := by
  induction idxs generalizing map with
  | nil => exact ⟨rfl, Nat.le_refl _, fun map' hres ↦ ⟨rfl, Except.ok.inj hres⟩⟩
  | cons idx idxs ih =>
    refine wp_read_anything (fun entry ↦ ?_) ⟨rfl, Nat.zero_le _, nofun⟩
    cases hentry : recordEntry map entry with
    | none => exact ⟨rfl, Nat.succ_le_succ (Nat.zero_le _), nofun⟩
    | some map₁ =>
      refine Procedure.wp_mono (ih map₁) fun trace res thread' _ hrest ↦ ?_
      obtain ⟨htables, hle, hmap⟩ := hrest
      refine ⟨htables, Nat.succ_le_succ hle, fun map' hres ↦ ?_⟩
      obtain ⟨hlength, hrecord⟩ := hmap map' hres
      refine ⟨congrArg (· + 1) hlength, ?_⟩
      rw [words_load, recordEntries, hentry]
      exact hrecord

/-- What is left when a fault ends the reads of data words. -/
theorem left_of_recorded {pointers entries rest : List UInt32} {count : UInt32}
    (hpointers : pointers.length = 2) (hlength : entries.length = min count.toNat TELEM_ENTRY_CAP)
    (hmap : recordEntries entries (fun _ ↦ unset) = some map) :
    left (pointers ++ count :: (entries ++ rest)) =
      spread map telemetryTags (underway map rest) fun _ ↦ 0 := by
  have hfill : fill (pointers ++ count :: (entries ++ rest)) = some (map, underway map rest) := by
    simp only [fill, ← hpointers, List.drop_left, ← hlength, List.take_left, hmap, Option.map_some]
  rw [left, hfill, Option.elim_some]

/-- Nothing is left when a fault ends the reads of entries. -/
theorem left_of_entries {pointers entries : List UInt32} {count : UInt32}
    (hpointers : pointers.length = 2) (hlength : entries.length ≤ min count.toNat TELEM_ENTRY_CAP) :
    left (pointers ++ count :: entries) = fun _ ↦ 0 := by
  have hfill : fill (pointers ++ count :: entries) =
      (recordEntries entries fun _ ↦ unset).map fun map ↦ (map, []) := by
    simp only [fill, ← hpointers, List.drop_left, List.take_of_length_le hlength,
      List.drop_of_length_le hlength, underway_nil]
  rw [left, hfill]
  cases recordEntries entries fun _ ↦ unset with
  | none => rw [Option.map_none, Option.elim_none]
  | some map =>
    rw [Option.map_some, Option.elim_some]
    exact spread_nil

theorem left_of_pointers {pointers : List UInt32} (hlength : pointers.length ≤ 2) :
    left pointers = fun _ ↦ 0 := by
  have hfill : fill pointers = none := by
    rw [fill, List.drop_of_length_le hlength]
  rw [left, hfill, Option.elim_none]

/-- The words of a snapshot, behind those of the two pointers. -/
theorem wp_snapshot {pointers : List UInt32} (hpointers : pointers.length = 2)
    (hzero : thread.tables table = fun _ ↦ 0) :
    Procedure.wp .anything (snapshot tbl data table).run (fun trace res thread' _ ↦
      (res = .error () → thread'.tables table = left (pointers ++ words trace)) ∧
      (res = .ok .TT_ERR → thread'.tables table = fun _ ↦ 0)) thread () := by
  unfold snapshot
  refine wp_read_anything (fun count ↦ ?_) ⟨fun _ ↦ ?_, nofun⟩
  · refine wp_guarded (wp_readEntries _ _) ?_ ?_
    · rintro entries listed thread₁ _ ⟨htables, -, hmap⟩
      have hzero₁ : thread₁.tables table = fun _ ↦ 0 := htables ▸ hzero
      cases listed with
      | none => exact ⟨nofun, fun _ ↦ hzero₁⟩
      | some map =>
        obtain ⟨hlength, hrecord⟩ := hmap map rfl
        rw [List.length_range] at hlength
        refine Procedure.wp_mono (wp_attemptSnapshot 3 hzero₁) fun rest res thread' _ hrest ↦ ?_
        refine ⟨fun hres ↦ ?_, hrest.2⟩
        rw [hrest.1 hres, words_load, words_append, left_of_recorded hpointers hlength hrecord]
    · rintro entries thread' _ ⟨htables, hle, -⟩
      refine ⟨fun _ ↦ ?_, nofun⟩
      rw [List.length_range] at hle
      rw [htables, hzero, words_load, left_of_entries hpointers hle]
  · rw [words_fault, words_nil, List.append_nil, left_of_pointers hpointers.le]
    exact hzero

end Reads

/-! ## Telemetry -/

section Telemetry

variable {sess : Session} {tlb : Tlb} {arch : ArchConstants} {table : Ref} {thread thread' : Thread}
  {status : Status} {trace first rest : List (Event Sys)} {reads : List UInt32}

/-- A trace in which nothing was read. -/
structure Silent (trace : List (Event Sys)) : Prop where
  faults : ¬Faults trace
  words : words trace = []

/-- What is found of code without reads, and that it reads nothing. -/
theorem wp_silent {α : Type} {procedure : C α} {post : List (Event Sys) → α → Thread → Prop}
    (h : Procedure.wp (.confined NoLoad) procedure
      (fun trace value thread' _ ↦ post trace value thread') thread ()) :
    Procedure.wp .anything procedure (fun trace value thread' _ ↦
      post trace value thread' ∧ Silent trace) thread () := by
  have hsilent := Procedure.wp_mono (Procedure.wp_permitted h) fun trace value thread' _ hpost ↦
    show post trace value thread' ∧ Silent trace from by
      refine ⟨hpost.1, not_faults_of_confined hpost.2, List.filterMap_eq_nil_iff.mpr ?_⟩
      rintro ⟨op, answer⟩ hmem
      obtain ⟨_, hop⟩ := hpost.2 _ hmem
      cases op with
      | load guard addr => exact absurd rfl (hop guard addr)
      | _ => rfl
  exact Procedure.wp_confined hsilent fun _ _ _ ↦ trivial

/-- What a failure leaves in the table: zeroes, or what a fault leaves. -/
def Leaves (table : Ref) (trace : List (Event Sys)) (reads : List UInt32) (status : Status)
    (thread' : Thread) : Prop :=
  status = .TT_ERR → ¬Faults trace ∧ thread'.tables table = (fun _ ↦ 0) ∨
    Faults trace ∧ thread'.tables table = left reads

theorem Leaves.after (h : Leaves table rest reads status thread') (hfirst : ¬Faults first) :
    Leaves table (first ++ rest) reads status thread' := by
  intro hstatus
  rw [faults_append, or_iff_right hfirst]
  exact h hstatus

theorem Leaves.before (h : Leaves table first reads status thread) (hrest : ¬Faults rest)
    (htables : thread'.tables = thread.tables) : Leaves table (first ++ rest) reads status thread' := by
  intro hstatus
  rw [faults_append, or_iff_left hrest, htables]
  exact h hstatus

/-- Nothing was stored since the table was zeroed. -/
theorem leaves_zero (hzero : thread.tables table = fun _ ↦ 0) :
    Leaves table [] reads status thread :=
  fun _ ↦ .inl ⟨not_faults_nil, hzero⟩

theorem wp_readSnapshot {pointers : List UInt32} (hpointers : pointers.length = 2)
    (hzero : thread.tables table = fun _ ↦ 0) (tags data : UInt32) :
    Procedure.wp .anything (readSnapshot sess arch tlb tags data table) (fun trace out thread' _ ↦
      Leaves table trace (pointers ++ words trace) out.1 thread') thread () := by
  refine Procedure.wp_call (wp_silent (tlbBind_records _)) fun binding out thread₁ _ hbind ↦ ?_
  obtain ⟨status, tlb₁⟩ := out
  obtain ⟨⟨-, herrno⟩, hquiet⟩ := hbind
  have hzero₁ : thread₁.tables table = fun _ ↦ 0 := herrno.tables ▸ hzero
  cases status with
  | TT_ERR => exact (leaves_zero hzero₁).after hquiet.faults
  | TT_OK done =>
    refine Procedure.wp_call (wp_silent (ttTrapArm_records tlb₁.ptr TT_TLB_2MB))
      fun arming _ thread₂ _ harm ↦ ?_
    obtain ⟨⟨-, -, htables, -⟩, hquiet₂⟩ := harm
    have hzero₂ : thread₂.tables table = fun _ ↦ 0 := htables ▸ hzero₁
    have hreads : Reads (fun _ ↦ True)
        (snapshot (tlb₁.ptr + windowOffset tags) (tlb₁.ptr + windowOffset data) table) :=
      snapshot_reads trivial (fun _ _ ↦ trivial) fun _ _ ↦ trivial
    refine Procedure.wp_call (Procedure.wp_and hreads.wp_anything (wp_snapshot hpointers hzero₂))
      fun loads res thread₃ _ hsnapshot ↦ ?_
    obtain ⟨hran, hfault, hfail⟩ := hsnapshot
    have hleaves (status : Status) (errno : Errno)
        (h : status = .TT_ERR → res = .error () ∨ res = .ok .TT_ERR) :
        Leaves table (binding ++ (arming ++ (loads ++ [])))
          (pointers ++ words (binding ++ (arming ++ (loads ++ [])))) status
          { thread₃ with errno := errno } := by
      rw [List.append_nil, words_append, words_append, hquiet.words, hquiet₂.words]
      refine Leaves.after (Leaves.after (fun hstatus ↦ ?_) hquiet₂.faults) hquiet.faults
      rcases h hstatus with hres | hres
      · exact .inr ⟨hran.faults.mpr hres, hfault hres⟩
      · refine .inl ⟨fun hfaults ↦ ?_, hfail hres⟩
        cases hres.symm.trans (hran.faults.mp hfaults)
    cases res with
    | error fault => exact hleaves _ _ fun _ ↦ .inl rfl
    | ok status => exact hleaves _ _ fun hstatus ↦ .inr (congrArg _ hstatus)

theorem wp_readPointers (window : ℕ) :
    Procedure.wp .anything (readPointers window arch).run (fun trace res thread' _ ↦
      thread'.tables = thread.tables ∧ (words trace).length ≤ 2 ∧
      (res ≠ .error () → (words trace).length = 2)) thread () := by
  refine wp_read_anything (fun tags ↦ ?_) ⟨rfl, Nat.zero_le _, fun hres ↦ absurd rfl hres⟩
  refine wp_read_anything (fun data ↦ ⟨rfl, Nat.le_refl _, fun _ ↦ rfl⟩) ⟨rfl, Nat.le_succ _, ?_⟩
  exact fun hres ↦ absurd rfl hres

theorem wp_readWindow (hzero : thread.tables table = fun _ ↦ 0) :
    Procedure.wp .anything (readWindow sess arch tlb table) (fun trace out thread' _ ↦
      Leaves table trace (words trace) out.1 thread') thread () := by
  refine Procedure.wp_call (wp_silent (tlbBind_records _)) fun binding out thread₁ _ hbind ↦ ?_
  obtain ⟨status, tlb₁⟩ := out
  obtain ⟨⟨-, herrno⟩, hquiet⟩ := hbind
  have hzero₁ : thread₁.tables table = fun _ ↦ 0 := herrno.tables ▸ hzero
  cases status with
  | TT_ERR => exact (leaves_zero hzero₁).after hquiet.faults
  | TT_OK done =>
    refine Procedure.wp_call (wp_silent (ttTrapArm_records tlb₁.ptr TT_TLB_2MB))
      fun arming _ thread₂ _ harm ↦ ?_
    obtain ⟨⟨-, -, htables, -⟩, hquiet₂⟩ := harm
    have hreads : Reads (fun _ ↦ True) (readPointers tlb₁.ptr arch) :=
      readPointers_reads trivial trivial
    refine Procedure.wp_call (Procedure.wp_and hreads.wp_anything (wp_readPointers tlb₁.ptr))
      fun loads res thread₃ _ hpointers ↦ ?_
    obtain ⟨hran, htables₃, hle, hlength⟩ := hpointers
    have hzero₃ : thread₃.tables table = fun _ ↦ 0 := by rw [htables₃, htables, hzero₁]
    cases res with
    | error fault =>
      refine Leaves.after (Leaves.after (fun _ ↦ .inr ?_) hquiet₂.faults) hquiet.faults
      rw [words_append, words_append, hquiet.words, hquiet₂.words]
      refine ⟨faults_append.mpr (.inl (hran.faults.mpr rfl)), hzero₃.trans (left_of_pointers ?_).symm⟩
      rw [List.append_nil]
      exact hle
    | ok pointers =>
      have hfaults : ¬Faults loads := fun h ↦ nomatch hran.faults.mp h
      dsimp only
      split
      · have hzero₄ : (Thread.disarm thread₃).tables table = fun _ ↦ 0 := hzero₃
        rw [ttTrapDisarm, Procedure.wp_bind, Procedure.wp_modify]
        refine Procedure.wp_mono (wp_readSnapshot (hlength nofun) hzero₄ _ _)
          fun rest out thread₄ _ hrest ↦ ?_
        rw [List.nil_append, words_append, words_append, words_append, hquiet.words, hquiet₂.words]
        exact ((hrest.after hfaults).after hquiet₂.faults).after hquiet.faults
      · refine (Leaves.after ?_ hquiet₂.faults).after hquiet.faults
        exact fun _ ↦ .inl ⟨mt faults_append.mp (not_or.mpr ⟨hfaults, not_faults_nil⟩), hzero₃⟩

/-- A failing call has left the table alone or has left in it what its reads found. -/
def Spoils (table : Ref) (thread : Thread) (trace : List (Event Sys)) (status : Status)
    (thread' : Thread) : Prop :=
  status = .TT_ERR → ¬Faults trace ∧ thread'.tables table = thread.tables table ∨
    ¬Faults trace ∧ thread'.tables table = (fun _ ↦ 0) ∨
    Faults trace ∧ thread'.tables table = left (words trace)

theorem spoils_untouched (htables : thread'.tables = thread.tables) (hfaults : ¬Faults trace) :
    Spoils table thread trace status thread' :=
  fun _ ↦ .inl ⟨hfaults, htables ▸ rfl⟩

theorem Leaves.spoils (h : Leaves table rest (words rest) status thread') (hfirst : Silent first) :
    Spoils table thread (first ++ rest) status thread' := by
  intro hstatus
  rw [words_append, hfirst.words]
  exact .inr (h.after hfirst.faults hstatus)

theorem wp_telemetry :
    Procedure.wp .anything (telemetry sess table) (fun trace status thread' _ ↦
      Spoils table thread trace status thread') thread () := by
  unfold telemetry
  split
  · exact spoils_untouched rfl not_faults_nil
  · refine Procedure.wp_call (wp_silent devInfo_records) fun asked info thread₁ _ hasked ↦ ?_
    obtain ⟨⟨-, herrno⟩, hquiet⟩ := hasked
    cases info with
    | TT_ERR =>
      refine spoils_untouched herrno.tables ?_
      rw [List.append_nil]
      exact hquiet.faults
    | TT_OK info =>
      cases harch : archConstants info.deviceId with
      | none =>
        simp only [harch]
        refine spoils_untouched herrno.tables ?_
        rw [List.append_nil]
        exact hquiet.faults
      | some arch =>
        simp only [harch]
        rw [Procedure.wp_bind, Procedure.wp_modify]
        refine Procedure.wp_call (wp_silent (tlbAlloc_records TT_TLB_2MB))
          fun granted out thread₂ _ halloc ↦ ?_
        obtain ⟨status, tlb⟩ := out
        obtain ⟨⟨-, -, herrno₂⟩, hquiet₂⟩ := halloc
        have hzero : thread₂.tables table = fun _ ↦ 0 := by
          rw [herrno₂.tables, zeroTable_tables]
        cases status with
        | TT_ERR => exact ((leaves_zero hzero).after hquiet₂.faults).spoils hquiet
        | TT_OK done =>
          refine Procedure.wp_call (wp_readWindow hzero) fun used out thread₃ _ hused ↦ ?_
          obtain ⟨status, tlb'⟩ := out
          have hwindow {freeing : List (Event Sys)} {thread₄ thread₅ : Thread}
              (hfree : OnlyErrno (Thread.disarm thread₃) thread₄) (hfreeing : Silent freeing)
              (hlast : OnlyErrno thread₄ thread₅) :
              Spoils table thread (asked ++ (granted ++ (used ++ freeing))) status thread₅ := by
            have htables : thread₅.tables = thread₃.tables := (hfree.trans hlast).tables
            have hwords : words (granted ++ (used ++ freeing)) = words used := by
              rw [words_append, words_append, hquiet₂.words, hfreeing.words, List.append_nil]
              rfl
            refine Leaves.spoils ?_ hquiet
            rw [hwords]
            exact (hused.before hfreeing.faults htables).after hquiet₂.faults
          cases status with
          | TT_OK done =>
            rw [ttTrapDisarm, Procedure.wp_bind, Procedure.wp_modify]
            refine Procedure.wp_call (wp_silent tlbFree_onlyErrno) fun freeing _ thread₄ _ hfree ↦ ?_
            simpa using hwindow hfree.1 hfree.2 ⟨_, rfl⟩
          | TT_ERR =>
            simp only [Procedure.wp_bind, wp_getErrno, ttTrapDisarm, Procedure.wp_modify]
            refine Procedure.wp_mono (wp_silent tlbFree_onlyErrno) fun freeing _ thread₄ _ hfree ↦ ?_
            simpa using hwindow hfree.1 hfree.2 ⟨_, rfl⟩

theorem stored_eq_zero_iff {reads : List UInt32} :
    left reads = (fun _ ↦ 0) ↔ ∀ word ∈ stored reads, word = 0 := by
  unfold left stored
  cases hfill : fill reads with
  | none => simp
  | some filled =>
    obtain ⟨map, words⟩ := filled
    have hlength : words.length ≤ listedTags map telemetryTags := by
      unfold fill at hfill
      split at hfill
      · cases hfill
      · obtain ⟨map', -, heq⟩ := Option.map_eq_some_iff.mp hfill
        obtain ⟨rfl, rfl⟩ := Prod.mk.inj heq
        exact length_underway_le
    rw [Option.elim_some, Option.elim_some]
    rw [← spread_eq_zero_iff telemetryTags_nodup hlength fun _ _ ↦ rfl]
    constructor
    · exact fun hzero tag _ ↦ congrFun hzero tag
    · intro hzero
      funext tag
      by_cases hmem : tag ∈ telemetryTags
      · exact hzero tag hmem
      · exact spread_of_notMem hmem

/-- A failing call leaves the table untouched or zeroed unless a fault comes after a word other
than zero was stored in the attempt under way. -/
theorem failed_telemetry_withholds_iff {sess : Option Session}
    (hrun : Procedure.Executes .anything (ttTelemetry sess (some table)) thread () trace .TT_ERR
      thread' ()) :
    (thread'.tables table = thread.tables table ∨ thread'.tables table = fun _ ↦ 0) ↔
      (Faults trace → (∀ word ∈ stored (words trace), word = 0) ∨
        thread.tables table = left (words trace)) := by
  have hwp : Procedure.wp .anything (ttTelemetry sess (some table)) (fun trace status thread' _ ↦
      Spoils table thread trace status thread') thread () := by
    cases sess with
    | none => exact spoils_untouched rfl not_faults_nil
    | some sess => exact wp_telemetry
  rcases hrun.ensures hwp rfl with ⟨hfaults, huntouched⟩ | ⟨hfaults, hzero⟩ | ⟨hfaults, hleft⟩
  · exact iff_of_true (.inl huntouched) fun h ↦ absurd h hfaults
  · exact iff_of_true (.inr hzero) fun h ↦ absurd h hfaults
  · rw [hleft, stored_eq_zero_iff, forall_prop_of_true hfaults, eq_comm, or_comm]

end Telemetry

/-! ## A fault between two words -/

/-- The words at the start of shared memory list two tags, and the second data word faults. -/
def sampleTrace : List (Event Sys) :=
  ⟨.getDeviceInfo 3, .ok sampleInfo (.other 0)⟩ ::
    ⟨.allocateTlb 3 TT_TLB_2MB, .ok { id := 5, mmapOffsetUc := 0, mmapOffsetWc := 0 } (.other 0)⟩ ::
    ⟨.mmap TT_TLB_2MB 3 0, .ok 0x200000 (.other 0)⟩ ::
    ⟨.configureTlb 3 5 (nocTlbConfig (apbConfig wormhole)), .ok () (.other 0)⟩ ::
    ⟨.sigaction, .SIG_DFL⟩ ::
    ⟨.load { ptr := 0x200000, len := TT_TLB_2MB } (0x200000 + windowOffset wormhole.telemTags),
      some 0x10000000⟩ ::
    ⟨.load { ptr := 0x200000, len := TT_TLB_2MB } (0x200000 + windowOffset wormhole.telemData),
      some 0x10000100⟩ ::
    ⟨.mmap TT_TLB_2MB 3 0, .ok 0x400000 (.other 0)⟩ ::
    ⟨.configureTlb 3 5 (nocTlbConfig (csmConfig wormhole)), .ok () (.other 0)⟩ ::
    ⟨.munmap 0x200000 TT_TLB_2MB, .ok () (.other 0)⟩ ::
    ⟨.load { ptr := 0x400000, len := TT_TLB_2MB } 0x400004, some 2⟩ ::
    ⟨.load { ptr := 0x400000, len := TT_TLB_2MB } 0x400008, some 1⟩ ::
    ⟨.load { ptr := 0x400000, len := TT_TLB_2MB } 0x40000c, some 0x10002⟩ ::
    ⟨.load { ptr := 0x400000, len := TT_TLB_2MB } 0x400100, some 7⟩ ::
    ⟨.load { ptr := 0x400000, len := TT_TLB_2MB } 0x400104, none⟩ ::
    ⟨.munmap 0x400000 TT_TLB_2MB, .ok () (.other 0)⟩ ::
    [⟨.freeTlb 3 5, .ok () (.other 0)⟩]

theorem fault_leaves_word : ∃ thread', Procedure.Executes .anything
    (ttTelemetry (some sampleSession) (some 0)) Thread.initial () sampleTrace .TT_ERR thread' () ∧
    thread'.errno = .ECONNRESET ∧
    ¬(thread'.tables 0 = Thread.initial.tables 0 ∨ thread'.tables 0 = fun _ ↦ 0) := by
  have hrun : ∃ thread', Procedure.Executes .anything
      (ttTelemetry (some sampleSession) (some 0)) Thread.initial () sampleTrace .TT_ERR thread' () ∧
      thread'.errno = .ECONNRESET ∧ thread'.tables 0 ⟨1, by decide⟩ = 7 := by
    refine ⟨_, .answered (.answered (.answered (.answered (.answered (.answered (.answered (.answered
      (.answered (.answered (.answered (.answered (.answered (.answered (.answered (.answered
      (.answered .done)))))))))))))))), ?_, ?_⟩
    · rfl
    · rfl
  obtain ⟨thread', hrun, herrno, hword⟩ := hrun
  refine ⟨thread', hrun, herrno, ?_⟩
  rintro (hsame | hzero)
  · rw [hsame] at hword
    cases hword
  · rw [hzero] at hword
    cases hword

/-- The first read faults. -/
def severedTrace : List (Event Sys) :=
  sampleTrace.take 5 ++
    [⟨.load { ptr := 0x200000, len := TT_TLB_2MB } (0x200000 + windowOffset wormhole.telemTags), none⟩,
      ⟨.munmap 0x200000 TT_TLB_2MB, .ok () (.other 0)⟩, ⟨.freeTlb 3 5, .ok () (.other 0)⟩]

/-- A caller's thread whose tables hold values of an earlier call. -/
def usedThread : Thread := { Thread.initial with tables := fun _ _ ↦ 9 }

theorem early_fault_withholds : ∃ thread', Procedure.Executes .anything
    (ttTelemetry (some sampleSession) (some 0)) usedThread () severedTrace .TT_ERR thread' () ∧
    (thread'.tables 0 = usedThread.tables 0 ∨ thread'.tables 0 = fun _ ↦ 0) := by
  have hrun : ∃ thread', Procedure.Executes .anything (ttTelemetry (some sampleSession) (some 0))
      usedThread () severedTrace .TT_ERR thread' () :=
    ⟨_, .answered (.answered (.answered (.answered (.answered (.answered (.answered (.answered
      .done)))))))⟩
  obtain ⟨thread', hrun⟩ := hrun
  have hnothing : stored (words severedTrace) = [] := rfl
  refine ⟨thread', hrun, (failed_telemetry_withholds_iff hrun).mpr fun _ ↦ .inl ?_⟩
  rw [hnothing]
  exact fun _ hmem ↦ absurd hmem List.not_mem_nil

end TtDal.Safety.TelemetryTable
