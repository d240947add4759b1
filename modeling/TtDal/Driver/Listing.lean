import TtDal.Dev.Discovery

/-!
# The directory of device nodes

Each opening of the directory reads a listing of its own, since devices come and go between two
scans, and a stream is read to its end entry by entry. A node that is opened gives a session or
not, and the session answers the information query or not, as it was decided for the attempt and
the path.
-/

namespace TtDal.Driver

open Effect Platform Dev

/-- What becomes of an attempt to use a device. -/
inductive Fate where
  | unopened (err : Errno)
  | mute (err : Errno)
  | answering (info : DevInfo)

/-- What the device answers to the information query. -/
def Fate.info : Fate → Option DevInfo
  | .answering info => some info
  | _ => none

def Fate.opens : Fate → Bool
  | .unopened _ => false
  | _ => true

def Fate.answers (fate : Fate) : Bool := fate.info.isSome

/-- What opening the directory gave. -/
inductive Scan where
  | listed (entries : List Dirent)
  | failed (err : Errno)

structure Listing where
  /-- The entries of the open stream that were not read yet. -/
  stream : List Dirent
  /-- The scans so far, the last one first. -/
  scans : List Scan
  /-- The number of nodes that were opened, or not. -/
  attempts : ℕ
  /-- The device opened last. -/
  current : Option Fate

namespace Scan

/-- The entries of the directory, and none where it was not opened. -/
def entries : Scan → List Dirent
  | .listed entries => entries
  | .failed _ => []

def devices (scan : Scan) : List Device := scan.entries.filterMap scanEntry

/-- The report of the devices that were found, of which those are stored for which there is
room. -/
def report (cap : ℕ) (found : List Device) : Result (ℕ × List Device) :=
  .TT_OK (found.length, found.take cap)

/-- What a scan for a capacity reports of what it read, and the `errno` it fails with. -/
def Reported (cap : ℕ) (scan : Scan) (res : Result (ℕ × List Device)) (errno : Errno) :
    Prop :=
  match scan with
  | .listed _ => res = report cap scan.devices
  | .failed err => if err = .ENOENT then res = .TT_OK (0, []) else res = .TT_ERR ∧ errno = err

end Scan

/-- No entry is read that was not filled. -/
def Filled (trace : List (Event Sys)) : Prop :=
  ∀ event ∈ trace, event.op ≠ .indeterminate

namespace Listing

/-- Nothing was asked yet. -/
def initial : Listing where
  stream := []
  scans := []
  attempts := 0
  current := none

def answers (allowed : Scan → Prop) (fate : ℕ → String → Fate) :
    (op : Syscall) → Listing → op.Answer → Listing → Prop
  | .opendir _, s, .ok _ _, s' => ∃ entries, allowed (.listed entries) ∧
      s' = { s with stream := entries, scans := .listed entries :: s.scans }
  | .opendir _, s, .fail err, s' => allowed (.failed err) ∧
      s' = { s with scans := .failed err :: s.scans }
  | .readdir _, s, answer, s' => answer = s.stream.head? ∧ s' = { s with stream := s.stream.tail }
  | .openFile path _, s, reply, s' =>
      match fate s.attempts path with
      | .unopened err => reply = .fail err ∧ s' = { s with attempts := s.attempts + 1 }
      | fate => reply.isOk = true ∧
          s' = { s with attempts := s.attempts + 1, current := some fate }
  | .getDeviceInfo _, s, reply, s' =>
      s' = s ∧ match s.current.bind Fate.info with
        | some info => ∃ residue, reply = .ok info residue
        | none => reply.isOk = false
  | _, s, _, s' => s' = s

/-- Some calls are permitted, each is answered, and an endless loop is not tolerated. -/
def contract (permitted : Syscall → Prop) (allowed : Scan → Prop)
    (fate : ℕ → String → Fate) : Contract Sys Listing where
  answers := answers allowed fate
  permits op _ := permitted op
  tolerates _ := False

/-- The calls of a scan. -/
def Scans : Syscall → Prop
  | .opendir _ | .readdir _ | .closedir _ => True
  | _ => False

/-- The calls of a lookup: those of a scan, those on one device, and a look at an entry that was
not filled. -/
def Looks : Syscall → Prop
  | .opendir _ | .readdir _ | .closedir _ | .openFile _ _ | .getDeviceInfo _ | .close _
  | .indeterminate => True
  | _ => False

/-- The calls of a query of the driver version. -/
def Queries : Syscall → Prop
  | .opendir _ | .readdir _ | .closedir _ | .openFile _ _ | .getDriverInfo _ | .close _ => True
  | _ => False

/-- A device that answers queries tells the version of the driver, whichever device it is. -/
def Reports (driver : DriverInfo) : (op : Syscall) → Listing → op.Answer → Listing → Prop
  | .getDriverInfo _, s, reply, _ =>
      match s.current.bind Fate.info with
        | some _ => ∃ residue, reply = .ok driver residue
        | none => reply.isOk = false
  | _, _, _, _ => True

/-- The calls of a lookup are answered. -/
theorem contract_answered {permitted : Syscall → Prop} {allowed : Scan → Prop}
    {fate : ℕ → String → Fate} {op : Syscall} (hscan : ∃ scan, allowed scan) (h : Looks op)
    (s : Listing) : ∃ answer s', (contract permitted allowed fate).answers op s answer s' := by
  cases op <;> try exact h.elim
  case opendir =>
    obtain ⟨scan, hscan⟩ := hscan
    cases scan with
    | listed entries => exact ⟨.ok 3 (.other 0), _, entries, hscan, rfl⟩
    | failed err => exact ⟨.fail err, _, hscan, rfl⟩
  case readdir => exact ⟨_, _, rfl, rfl⟩
  case closedir => exact ⟨.ok () (.other 0), s, rfl⟩
  case close => exact ⟨.ok () (.other 0), s, rfl⟩
  case indeterminate => exact ⟨0, s, rfl⟩
  case openFile path flags =>
    simp only [contract, answers]
    cases fate s.attempts path with
    | unopened err => exact ⟨_, _, rfl, rfl⟩
    | mute err => exact ⟨.ok 3 (.other 0), _, rfl, rfl⟩
    | answering info => exact ⟨.ok 3 (.other 0), _, rfl, rfl⟩
  case getDeviceInfo fd =>
    simp only [contract, answers]
    split
    · exact ⟨.ok _ (.other 0), s, rfl, _, rfl⟩
    · exact ⟨.fail Errno.EIO, s, rfl, rfl⟩

/-- The calls of a query are answered. -/
theorem restricted_answered {allowed : Scan → Prop} {fate : ℕ → String → Fate}
    (driver : DriverInfo) {op : Syscall} (hscan : ∃ scan, allowed scan) (h : Queries op)
    (s : Listing) : ∃ answer s',
      ((contract Queries allowed fate).restricted (Reports driver)).answers op s answer s' := by
  have hlooked (hlooks : Looks op) (hreports : ∀ answer s', Reports driver op s answer s') :
      ∃ answer s', ((contract Queries allowed fate).restricted (Reports driver)).answers op s answer
        s' := by
    obtain ⟨answer, s', hanswer⟩ := contract_answered hscan hlooks s
    exact ⟨answer, s', hanswer, hreports answer s'⟩
  cases op <;> try exact h.elim
  case getDriverInfo fd =>
    simp only [Contract.restricted, contract, answers, Reports]
    split
    · exact ⟨.ok driver (.other 0), s, rfl, _, rfl⟩
    · exact ⟨.fail Errno.EIO, s, rfl, rfl⟩
  -- What else a query calls, a lookup calls.
  all_goals exact hlooked trivial fun _ _ ↦ trivial

section Scans

variable {permitted : Syscall → Prop} {allowed : Scan → Prop} {fate : ℕ → String → Fate}
  {s : Listing} {thread : Thread}

/-- The loop counts every device and stores those for which there is room. -/
theorem wp_scanLoop (hpermitted : ∀ op, Scans op → permitted op) (dir cap rounds count : ℕ)
    (buf : List Device) (hrounds : s.stream.length < rounds) (hbuf : buf.length = min count cap) :
    Procedure.wp (contract permitted allowed fate) (scanLoop dir cap rounds count buf)
      (fun _ found _ s' ↦
        found = (count + (s.stream.filterMap scanEntry).length,
          buf ++ (s.stream.filterMap scanEntry).take (cap - buf.length)) ∧
        s' = { s with stream := [] }) thread s := by
  induction rounds generalizing s thread count buf with
  | zero => omega
  | succ rounds ih =>
    rw [scanLoop, Procedure.wp_bind, wp_sys]
    refine ⟨hpermitted _ trivial, fun entry s₁ hanswer ↦ ?_⟩
    obtain ⟨hentry, rfl⟩ : entry = s.stream.head? ∧ s₁ = { s with stream := s.stream.tail } :=
      hanswer
    cases hstream : s.stream with
    | nil =>
      rw [hstream] at hentry
      obtain rfl := hentry
      simp only [List.head?_nil, List.tail_nil, List.filterMap_nil, List.take_nil, List.append_nil,
        Procedure.wp_pure, List.length_nil, Nat.add_zero, and_true]
    | cons first rest =>
      have hrest : rest.length < rounds := by
        rw [hstream, List.length_cons] at hrounds
        omega
      rw [hstream] at hentry
      obtain rfl := hentry
      simp only [List.head?_cons, List.tail_cons]
      cases hdev : scanEntry first with
      | none =>
        rw [List.filterMap_cons_none hdev]
        exact @ih { s with stream := rest } _ count buf hrest hbuf
      | some dev =>
        rw [List.filterMap_cons_some hdev]
        by_cases hroom : count < cap
        · simp only [if_pos hroom]
          have hgrown : (buf ++ [dev]).length = min (count + 1) cap := by
            rw [List.length_append, hbuf, List.length_singleton]
            omega
          refine Procedure.wp_mono
            (@ih { s with stream := rest } _ (count + 1) (buf ++ [dev]) hrest hgrown) ?_
          intro _ found _ s' hfound
          obtain ⟨rfl, rfl⟩ := hfound
          have hleft : cap - buf.length = cap - (buf ++ [dev]).length + 1 := by
            rw [hgrown, hbuf]
            omega
          rw [hleft, List.take_succ_cons, List.append_assoc, List.length_cons]
          exact ⟨Prod.ext (by simp only; omega) rfl, rfl⟩
        · simp only [if_neg hroom]
          have hfull : buf.length = min (count + 1) cap := by omega
          refine Procedure.wp_mono (@ih { s with stream := rest } _ (count + 1) buf hrest hfull) ?_
          intro _ found _ s' hfound
          obtain ⟨rfl, rfl⟩ := hfound
          have hleft : cap - buf.length = 0 := by omega
          rw [hleft, List.take_zero, List.take_zero, List.length_cons]
          exact ⟨Prod.ext (by simp only; omega) rfl, rfl⟩

/-- A scan counts every device of its listing, and stores the first ones in order. -/
theorem wp_ttDevScan (hpermitted : ∀ op, Scans op → permitted op) (rounds cap : ℕ)
    (hrounds : ∀ scan, allowed scan → scan.entries.length < rounds) :
    Procedure.wp (contract permitted allowed fate) (ttDevScan rounds cap) (fun _ res thread' s' ↦
      ∃ scan, s'.scans = scan :: s.scans ∧ s'.attempts = s.attempts ∧ allowed scan ∧
        scan.Reported cap res thread'.errno) thread s := by
  rw [ttDevScan, Procedure.wp_bind, wp_sys]
  refine ⟨hpermitted _ trivial, fun reply s₁ hanswer ↦ ?_⟩
  cases reply with
  | fail err =>
    obtain ⟨hallowed, rfl⟩ : allowed (.failed err) ∧
      s₁ = { s with scans := .failed err :: s.scans } := hanswer
    by_cases herr : err = .ENOENT
    · simp only [if_pos herr]
      refine ⟨.failed err, rfl, rfl, hallowed, ?_⟩
      simp only [Scan.Reported, if_pos herr]
    · simp only [if_neg herr]
      refine ⟨.failed err, rfl, rfl, hallowed, ?_⟩
      simp only [Scan.Reported, if_neg herr]
      exact ⟨trivial, rfl⟩
  | ok dir residue =>
    obtain ⟨entries, hallowed, rfl⟩ : ∃ entries, allowed (.listed entries) ∧
      s₁ = { s with stream := entries, scans := .listed entries :: s.scans } := hanswer
    refine Procedure.wp_call (wp_scanLoop hpermitted dir cap rounds 0 []
      (hrounds (.listed entries) hallowed) (by simp)) fun _ found _ s₂ hfound ↦ ?_
    obtain ⟨rfl, rfl⟩ := hfound
    rw [Procedure.wp_bind, wp_sys]
    refine ⟨hpermitted _ trivial, fun closed s₃ hclosed ↦ ?_⟩
    obtain rfl := hclosed
    refine ⟨.listed entries, rfl, rfl, hallowed, ?_⟩
    simp [Scan.Reported, Scan.report, Scan.devices, Scan.entries]

/-- Code that makes only the calls of a scan reads no entry that was not filled. -/
theorem wp_filled {α : Type} {procedure : C α} {post : Procedure.Post Sys α Thread Listing}
    (hpermitted : ∀ op, Scans op → permitted op)
    (h : Procedure.wp (contract Scans allowed fate) procedure post thread s) :
    Procedure.wp (contract permitted allowed fate) procedure
      (fun trace value thread' s' ↦ Filled trace ∧ post trace value thread' s') thread s := by
  have hanswers (op : Syscall) (w : Listing) (answer : op.Answer) (w' : Listing) :
      (contract permitted allowed fate).answers op w answer w' →
      (contract Scans allowed fate).answers op w answer w' := id
  have hpermits (op : Syscall) (w : Listing) (hop : (contract Scans allowed fate).permits op w) :
      (contract permitted allowed fate).permits op w := hpermitted op hop
  refine Procedure.wp_mono (Procedure.wp_relaxed hanswers hpermits (fun _ ↦ id)
    (Procedure.wp_permitted h)) ?_
  intro trace value thread' s' hpost
  refine ⟨fun event hevent hop ↦ ?_, hpost.1⟩
  obtain ⟨_, hpermits⟩ := hpost.2 event hevent
  rw [hop] at hpermits
  exact hpermits

theorem completes_of_wp {α : Type} {procedure : C α} {post : α → Thread → Listing → Prop}
    (hscan : ∃ scan, allowed scan)
    (h : Procedure.wp (contract Scans allowed fate) procedure
      (fun _ value thread' s' ↦ post value thread' s') thread s) :
    Procedure.Completes (contract Scans allowed fate) procedure thread s
      fun trace value thread' s' ↦ Filled trace ∧ post value thread' s' := by
  apply Procedure.wp_completes
  · intro op v hop
    apply contract_answered hscan
    cases op <;> trivial
  · exact fun _ ↦ id
  · exact wp_filled (fun _ ↦ id) h

end Scans

/-! ## One device -/

section Device

variable {permitted : Syscall → Prop} {allowed : Scan → Prop} {fate : ℕ → String → Fate}
  {s : Listing} {thread : Thread}

theorem filled_append {first rest : List (Event Sys)} :
    Filled (first ++ rest) ↔ Filled first ∧ Filled rest :=
  List.forall_mem_append

theorem filled_singleton {op : Syscall} {answer : op.Answer} (h : op ≠ .indeterminate) :
    Filled [⟨op, answer⟩] :=
  List.forall_mem_singleton.mpr h

/-- What an attempt to open a device gives. -/
def Opened (s : Listing) (fate : Fate) (res : Result Session) (errno : Errno) (s' : Listing) :
    Prop :=
  (∃ err, fate = .unopened err ∧ res = .TT_ERR ∧
      errno = (if err = .EAGAIN then .EAGAIN else .ENODEV) ∧
      s' = { s with attempts := s.attempts + 1 }) ∨
    ∃ sess, fate.opens = true ∧ res = .TT_OK sess ∧ 0 ≤ sess.fd ∧
      s' = { s with attempts := s.attempts + 1, current := some fate }

theorem wp_openSession (hpermitted : ∀ path flags, permitted (.openFile path flags))
    (dev : Device) :
    Procedure.wp (contract permitted allowed fate) (openSession dev 0) (fun trace res thread' s' ↦
      Filled trace ∧ Opened s (fate s.attempts (devicePath dev)) res thread'.errno s') thread s := by
  rw [openSession_eq, if_neg (by decide), Procedure.wp_bind, wp_sys]
  refine ⟨hpermitted _ _, fun reply s₁ hopened ↦ ?_⟩
  have hanswer : answers allowed fate (.openFile (devicePath dev) (openFlags 0)) s reply s₁ :=
    hopened
  have hfilled := @filled_singleton (.openFile (devicePath dev) (openFlags 0)) reply nofun
  simp only [answers] at hanswer
  cases hfate : fate s.attempts (devicePath dev) with
  | unopened err =>
    rw [hfate] at hanswer
    obtain ⟨rfl, hsame⟩ := hanswer
    exact ⟨hfilled, .inl ⟨err, rfl, rfl, rfl, hsame⟩⟩
  | mute err =>
    rw [hfate] at hanswer
    cases reply with
    | fail err => exact absurd hanswer.1 nofun
    | ok fd residue => exact ⟨hfilled, .inr ⟨_, rfl, rfl, Int.natCast_nonneg fd, hanswer.2⟩⟩
  | answering info =>
    rw [hfate] at hanswer
    cases reply with
    | fail err => exact absurd hanswer.1 nofun
    | ok fd residue => exact ⟨hfilled, .inr ⟨_, rfl, rfl, Int.natCast_nonneg fd, hanswer.2⟩⟩

theorem wp_closeSession (hpermitted : ∀ fd, permitted (.close fd)) (sess : Session) :
    Procedure.wp (contract permitted allowed fate) (closeSession sess)
      (fun trace _ _ s' ↦ Filled trace ∧ s' = s) thread s := by
  unfold closeSession
  split
  · exact ⟨List.forall_mem_nil _, rfl⟩
  · rw [Procedure.wp_bind, wp_sys]
    refine ⟨hpermitted _, fun reply s₁ hclosed ↦ ?_⟩
    have hsame : s₁ = s := hclosed
    cases reply with
    | fail err => exact ⟨filled_singleton nofun, hsame⟩
    | ok value residue => exact ⟨filled_singleton nofun, hsame⟩

end Device

end Listing

end TtDal.Driver
