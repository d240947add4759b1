import TtDal.Binding.Power
import TtDal.Safety.PowerAggregation

/-!
# Power requests of the bindings

`Session::power` may reopen a persistent session several times before its request goes through. In
the end the session has one descriptor, and it requests exactly the features of the set. The
descriptors used on the way request nothing, and those of other sessions are left alone.
-/

namespace TtDal.Safety.PowerRequests

open Effect Platform Dev Driver Binding PowerAggregation

/-- The features a descriptor requests. -/
def wanted (table : Contributions) (fd : ℤ) : Set PowerFlag :=
  {flag | ∃ contribution, table fd = some contribution ∧ flag ∈ contribution.wanted}

/-- The session has a descriptor of its own device, which requests these features. -/
def Requests (table : Contributions) (sess : Session) (features : Set PowerFlag) : Prop :=
  table sess.fd = some { dev := sess.dev, wanted := features }

/-- A descriptor of the session is one of its device. -/
def Names (table : Contributions) (sess : Session) : Prop :=
  ∀ contribution, 0 ≤ sess.fd → table sess.fd = some contribution → contribution.dev = sess.dev

/-- What may have become of a session and the descriptors. -/
structure Kept (features : Set PowerFlag) (table : Contributions) (sess : Session)
    (table' : Contributions) (sess' : Session) : Prop where
  dev : sess'.dev = sess.dev
  names : Names table' sess'
  others : ∀ fd, 0 ≤ fd → fd ≠ sess.fd → fd ≠ sess'.fd → table' fd = table fd
  fresh : 0 ≤ sess'.fd → sess'.fd ≠ sess.fd → table sess'.fd = none
  released : 0 ≤ sess.fd → sess'.fd ≠ sess.fd → table' sess.fd = none
  bounded : 0 ≤ sess'.fd → wanted table' sess'.fd ⊆ wanted table sess.fd ∪ features

variable {features : Set PowerFlag} {table table' : Contributions} {sess sess' : Session}
  {thread : Thread} {flags : UInt16}

theorem Kept.start (h : Names table sess) : Kept features table sess table sess where
  dev := rfl
  names := h
  others _ _ _ _ := rfl
  fresh _ hne := absurd rfl hne
  released _ hne := absurd rfl hne
  bounded _ := Set.subset_union_left

/-- A request changes what the session's descriptor asks for. -/
theorem Kept.requests {contribution : Contribution} (h : Kept features table sess table' sess')
    (hdev : contribution.dev = sess'.dev)
    (hwanted : contribution.wanted ⊆ wanted table sess.fd ∪ features) :
    Kept features table sess (Function.update table' sess'.fd (some contribution)) sess' where
  dev := h.dev
  names other _ hother := by
    rw [Function.update_self] at hother
    cases hother
    exact hdev
  others fd hfd hne hne' := by
    rw [Function.update_of_ne hne']
    exact h.others fd hfd hne hne'
  fresh := h.fresh
  released hfd hne := by
    rw [Function.update_of_ne hne.symm]
    exact h.released hfd hne
  bounded _ := by
    rintro flag ⟨other, hother, hflag⟩
    rw [Function.update_self] at hother
    cases hother
    exact hwanted hflag

/-- Apart from the session's first descriptor, all are as they were once its last one is closed. -/
theorem Kept.restored (h : Kept features table sess table' sess') {fd : ℤ} (hfd : 0 ≤ fd)
    (hne : fd ≠ sess.fd) : table'.without sess' fd = table fd := by
  by_cases heq : fd = sess'.fd
  · subst heq
    rw [Contributions.without_self hfd]
    exact (h.fresh hfd hne).symm
  · rw [Contributions.without_of_ne heq]
    exact h.others fd hfd hne heq

theorem Kept.first (h : Kept features table sess table' sess') (hfd : 0 ≤ sess.fd) :
    table'.without sess' sess.fd = none := by
  by_cases heq : sess.fd = sess'.fd
  · rw [heq]
    exact Contributions.without_self (heq ▸ hfd)
  · rw [Contributions.without_of_ne heq]
    exact h.released hfd (Ne.symm heq)

/-- A reopen that found a new descriptor. -/
theorem Kept.reopened {opened : Session} (h : Kept features table sess table' sess')
    (hdev : opened.dev = sess'.dev)
    (hfree : table'.without sess' opened.fd = none) :
    Kept features table sess (Function.update (table'.without sess') opened.fd
      (some { dev := opened.dev, wanted := ∅ })) opened where
  dev := hdev.trans h.dev
  names contribution _ hcontribution := by
    rw [Function.update_self] at hcontribution
    cases hcontribution
    rfl
  others other hother hne hne' := by
    rw [Function.update_of_ne hne']
    exact h.restored hother hne
  fresh hopened hne := by
    rw [← h.restored hopened hne]
    exact hfree
  released hfirst hne := by
    rw [Function.update_of_ne (Ne.symm hne)]
    exact h.first hfirst
  bounded _ := by
    rintro flag ⟨contribution, hcontribution, hflag⟩
    rw [Function.update_self] at hcontribution
    cases hcontribution
    exact hflag.elim

/-- A reopen that found none. -/
theorem Kept.lost {stale : Session} (h : Kept features table sess table' sess')
    (hdev : stale.dev = sess'.dev) (hfd : stale.fd = sess'.fd ∨ stale.fd < 0) :
    Kept features table sess (table'.without sess') stale where
  dev := hdev.trans h.dev
  names contribution hopen hcontribution := by
    rcases hfd with hsame | hclosed
    · rw [hsame] at hopen hcontribution
      rw [Contributions.without_self hopen] at hcontribution
      cases hcontribution
    · exact absurd hopen (Int.not_le.mpr hclosed)
  others fd hother hne _ := h.restored hother hne
  fresh hopen hne := by
    rcases hfd with hsame | hclosed
    · rw [hsame] at hopen hne ⊢
      exact h.fresh hopen hne
    · exact absurd hopen (Int.not_le.mpr hclosed)
  released hfirst _ := h.first hfirst
  bounded hopen := by
    rintro flag ⟨contribution, hcontribution, -⟩
    rcases hfd with hsame | hclosed
    · rw [hsame] at hopen hcontribution
      rw [Contributions.without_self hopen] at hcontribution
      cases hcontribution
    · exact absurd hopen (Int.not_le.mpr hclosed)

theorem wp_reopen (h : Kept features table sess table' sess') :
    Procedure.wp Contributions.contract (Rust.reopen sess') (fun _ out _ table'' ↦
      Kept features table sess table'' out.2) thread table' := by
  unfold Rust.reopen reopenSession
  rw [Procedure.wp_bind]
  refine Procedure.wp_call wp_closeSession fun _ closed _ _ ⟨hdev, hfd, htable⟩ ↦ ?_
  obtain ⟨status, stale⟩ := closed
  subst htable
  refine Procedure.wp_call (wp_openSession stale.dev stale.flags) fun _ res _ table'' hres ↦ ?_
  cases res with
  | TT_OK opened =>
    obtain ⟨hopened, hpos, hfree, rfl⟩ := hres
    exact h.reopened (hopened.trans hdev) hfree
  | TT_ERR =>
    subst hres
    exact h.lost hdev hfd

/-- Recording a request sets the features of the descriptor. -/
theorem answersPower_requests {reply : Reply Unit} {table'' : Contributions}
    (h : Kept (featuresOf flags) table sess table' sess') (hopen : 0 ≤ sess'.fd)
    (hanswer : table'.answersPower sess'.fd (powerState flags) reply table'') :
    Kept (featuresOf flags) table sess table'' sess' ∧
      (reply.isOk = true → Requests table'' sess' (featuresOf flags)) := by
  rcases hanswer with ⟨hfail, rfl⟩ | ⟨contribution, contribution', hfd, -, hrecords, rfl⟩
  · refine ⟨h, fun hok ↦ ?_⟩
    rw [hfail] at hok
    cases hok
  · have hdev : contribution'.dev = sess'.dev :=
      hrecords.1.trans (h.names contribution hopen hfd)
    have hwanted : contribution'.wanted = featuresOf flags :=
      Set.ext fun flag ↦ hrecords.2 flag (index_lt_validFlags flag flags)
    refine ⟨h.requests hdev (hwanted ▸ Set.subset_union_right), fun _ ↦ ?_⟩
    rw [Requests, Function.update_self, ← hdev, ← hwanted]

theorem wp_ttPower (h : Kept (featuresOf flags) table sess table' sess') :
    Procedure.wp Contributions.contract (Rust.check (ttPower (some sess') flags))
      (fun _ res _ table'' ↦ Kept (featuresOf flags) table sess table'' sess' ∧
        ∀ value, res = .ok value → Requests table'' sess' (featuresOf flags)) thread table' := by
  apply wp_check
  by_cases hfd : sess'.fd < 0
  · simpa [ttPower, hfd] using h
  · simp only [ttPower, hfd, if_false]
    rw [Procedure.wp_bind, wp_sys]
    refine ⟨trivial, fun reply table'' hanswer ↦ ?_⟩
    obtain ⟨hkept, hrequests⟩ := answersPower_requests h (Int.not_lt.mp hfd) hanswer
    cases reply with
    | ok value residue => exact ⟨hkept, fun _ _ ↦ hrequests rfl⟩
    | fail err => exact ⟨hkept, fun _ hres ↦ by cases hres⟩

theorem wp_power (h : Names table sess) (persist : Bool) (set : Rust.FlagSet) :
    Procedure.wp Contributions.contract (Rust.power persist set sess) (fun _ out _ table' ↦
      Kept set.features table sess table' out.2 ∧
        ∀ value, out.1 = .ok value → Requests table' out.2 set.features) thread table :=
  Binding.wp_perform persist (fun _ _ _ hkept ↦ wp_ttPower hkept)
    (fun _ _ _ hkept ↦ wp_reopen hkept) (Kept.start h)

/-- What a request of either binding comes to. -/
structure Requested (features : Set PowerFlag) (table : Contributions) (sess : Session)
    (ok : Prop) (table' : Contributions) (sess' : Session) : Prop
    extends Kept features table sess table' sess' where
  requests : ok → Requests table' sess' features

theorem bindings_request (h : Names table sess) (persist : Bool) (bits : UInt16)
    (thread : Thread) :
    Procedure.wp Contributions.contract (Rust.power persist ⟨bits⟩ sess) (fun _ out _ table' ↦
      Requested (featuresOf bits) table sess (out.1 = .ok ()) table' out.2) thread table ∧
    Procedure.wp Contributions.contract (Python.power persist ⟨bits⟩ sess) (fun _ out _ table' ↦
      Requested (featuresOf bits) table sess (out.1 = .ok ()) table' out.2) thread table := by
  have hrust : Procedure.wp Contributions.contract (Rust.power persist ⟨bits⟩ sess)
      (fun _ out _ table' ↦ Kept (featuresOf bits) table sess table' out.2 ∧
        ∀ value, out.1 = .ok value → Requests table' out.2 (featuresOf bits)) thread table :=
    wp_power h persist ⟨bits⟩
  refine ⟨Procedure.wp_mono hrust fun _ out _ table' hout ↦ ⟨hout.1, hout.2 ()⟩, ?_⟩
  rw [power_agree, Procedure.wp_map]
  refine Procedure.wp_mono hrust fun _ out _ table' hout ↦ ⟨hout.1, fun hok ↦ hout.2 () ?_⟩
  obtain ⟨res, sess'⟩ := out
  cases res with
  | ok value => rfl
  | error err => cases hok

/-! ## Two requests -/

/-- One descriptor of the device, which requests these features. -/
def tableAt (fd : ℤ) (wanted : Set PowerFlag) : Contributions :=
  Function.update (fun _ ↦ none) fd (some { dev := sampleDevice, wanted := wanted })

theorem tableAt_names (sess : Session) (hdev : sess.dev = sampleDevice) (wanted : Set PowerFlag) :
    Names (tableAt sess.fd wanted) sess := by
  intro contribution _ hcontribution
  rw [tableAt, Function.update_self] at hcontribution
  cases hcontribution
  exact hdev.symm

/-- What the driver has after a request that was answered. -/
theorem tableAt_answered (fd : ℤ) (flags : UInt16) :
    Contributions.contract.answers (.setPowerState fd (powerState flags)) (tableAt fd ∅)
      (.ok () (.other 0)) (tableAt fd (featuresOf flags)) := by
  refine .inr ⟨{ dev := sampleDevice, wanted := ∅ },
    { dev := sampleDevice, wanted := featuresOf flags }, ?_, ⟨rfl, rfl, rfl⟩,
    ⟨rfl, fun _ _ ↦ Iff.rfl⟩, ?_⟩
  · exact Function.update_self _ _ _
  · rw [tableAt, tableAt, Function.update_idem]

def reopenedSession : Session := { sampleSession with fd := 4 }

theorem sample_reopens (thread : Thread) : Procedure.Executes Contributions.contract
    (Python.reopen sampleSession) thread (tableAt 3 ∅)
    [⟨.close 3, .ok () (.other 0)⟩,
      ⟨.openFile (devicePath sampleDevice) (openFlags 0), .ok 4 (.other 0)⟩]
    (.ok (), reopenedSession) { thread with errno := .other 0 } (tableAt 4 ∅) := by
  have hclose : Contributions.contract.answers (.close sampleSession.fd) (tableAt 3 ∅)
      (.ok () (.other 0)) fun _ ↦ none := by
    change (fun _ ↦ none) = Function.update (tableAt 3 ∅) 3 none
    rw [tableAt, Function.update_idem]
    exact (Function.update_eq_self 3 _).symm
  have hopen : Contributions.contract.answers
      (.openFile (devicePath sampleSession.dev) (openFlags sampleSession.flags)) (fun _ ↦ none)
      (.ok 4 (.other 0)) (tableAt 4 ∅) := ⟨rfl, .inl ⟨sampleDevice, rfl, rfl⟩⟩
  exact Procedure.executes_bind.mpr ⟨_, [], _, _, _, rfl,
    executes_reopenSession sampleSession (by decide) rfl hclose hopen, .done⟩

/-- A request on a lost descriptor is repeated on a new one. -/
theorem sample_repeats (flags : Python.Flag) : ∃ trace, Procedure.Executes Contributions.contract
    (Python.power true flags sampleSession) Thread.initial (tableAt 3 ∅) trace
    (.ok (), reopenedSession) Thread.initial (tableAt 4 (featuresOf flags.bits)) := by
  have hlost : Contributions.contract.answers (.setPowerState 3 (powerState flags.bits))
      (tableAt 3 ∅) (.fail .ENODEV) (tableAt 3 ∅) := .inl ⟨rfl, rfl⟩
  exact ⟨_, Procedure.executes_bind.mpr ⟨_, _, .error (.TTError .ECONNRESET), _, _, rfl,
    .call hlost .done, Procedure.executes_bind.mpr ⟨[], _, true, _, _, rfl, .done,
      Procedure.executes_bind.mpr ⟨_, _, _, _, _, rfl, sample_reopens _,
        .call (tableAt_answered 4 flags.bits) .done⟩⟩⟩⟩

/-- Two features are requested on a session that requests none yet, from Rust at once and from
Python after the connection was lost. -/
theorem sample_requested :
    (∃ trace table' sess', Procedure.Executes Contributions.contract
        (Rust.power true (.fromIter [.MaxAiClk, .TensixEnable]) sampleSession) Thread.initial
        (tableAt 3 ∅) trace (.ok (), sess') Thread.initial table' ∧
      Requests table' sess' {.MAX_AI_CLK, .TENSIX_ENABLE}) ∧
    ∃ trace table', Procedure.Executes Contributions.contract
        (Python.power true (.or .MaxAiClk .TensixEnable) sampleSession) Thread.initial
        (tableAt 3 ∅) trace (.ok (), reopenedSession) Thread.initial table' ∧
      table' 3 = none ∧ Requests table' reopenedSession {.MAX_AI_CLK, .TENSIX_ENABLE} := by
  have hnames : Names (tableAt 3 ∅) sampleSession := tableAt_names sampleSession rfl ∅
  constructor
  · have hfeatures : featuresOf (Rust.FlagSet.fromIter [.MaxAiClk, .TensixEnable]).bits =
        {.MAX_AI_CLK, .TENSIX_ENABLE} := by
      refine (Rust.FlagSet.features_fromIter _).trans ?_
      ext feature
      simp [Rust.Flag.feature, eq_comm]
    have hrun : Procedure.Executes Contributions.contract
        (Rust.power true (.fromIter [.MaxAiClk, .TensixEnable]) sampleSession) Thread.initial
        (tableAt 3 ∅) _ (.ok (), sampleSession) Thread.initial _ :=
      .call (tableAt_answered 3 _) .done
    refine ⟨_, _, _, hrun, ?_⟩
    rw [← hfeatures]
    exact (hrun.ensures (bindings_request hnames true _ _).1).requests rfl
  · have hfeatures : featuresOf (Python.Flag.or .MaxAiClk .TensixEnable).bits =
        {.MAX_AI_CLK, .TENSIX_ENABLE} := by
      refine (Python.Flag.features_or _ _).trans ?_
      rw [Python.Flag.features, Python.Flag.features, Python.Flag.MaxAiClk,
        Python.Flag.TensixEnable, featuresOf_mask, featuresOf_mask]
      rfl
    obtain ⟨trace, hrun⟩ := sample_repeats (.or .MaxAiClk .TensixEnable)
    have hrequested := hrun.ensures (bindings_request hnames true _ _).2
    rw [← hfeatures]
    exact ⟨trace, _, hrun, hrequested.released (by decide) (by decide), hrequested.requests rfl⟩

end TtDal.Safety.PowerRequests
