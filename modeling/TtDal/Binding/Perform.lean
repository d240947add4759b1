import TtDal.Dev.Session

/-!
# Operations of a binding session

Both language bindings run a device operation through `Session::perform`, which reopens a
persistent session when the connection was lost. The Rust version looks at the error it was
returned. The Python version reads `errno` again, after the exception has been built. Both are
written over an arbitrary monad for the operation and the reopen, so the same text runs on the
library and on bare sequences of outcomes.
-/

namespace TtDal.Binding

open Effect Platform Dev

/-- Reopen attempts before a persistent session gives up. -/
def RETRIES : ℕ := 3

section Perform

variable {m : Type → Type} [Monad m] {σ α : Type}

/-! ## Rust -/

namespace Rust

/-- `Error::is_lost` on a result. -/
def isLost : Except Errno α → Bool
  | .error err => err = .ECONNRESET
  | .ok _ => false

/-- The retries of a persistent session after a first result. -/
def performLoop (op : σ → m (Except Errno α)) (reopen : σ → m (Except Errno Unit × σ)) :
    (retries : ℕ) → σ → Except Errno α → m (Except Errno α × σ)
  | 0, sess, res => pure (if isLost res then .error .ENODEV else res, sess)
  | retries + 1, sess, res =>
    if isLost res then do
      match ← reopen sess with
      | (.error err, sess) => return (.error err, sess)
      | (.ok _, sess) =>
        let res ← op sess
        performLoop op reopen retries sess res
    else
      pure (res, sess)

/-- `Session::perform` -/
def perform (persist : Bool) (op : σ → m (Except Errno α))
    (reopen : σ → m (Except Errno Unit × σ)) (sess : σ) : m (Except Errno α × σ) := do
  let res ← op sess
  if persist then performLoop op reopen RETRIES sess res else return (res, sess)

/-- `err::check` -/
def check (call : C (Result α)) : C (Except Errno α) := do
  match ← call with
  | .TT_OK out => return .ok out
  | .TT_ERR => return .error (← getErrno)

/-- `Session::reopen` -/
def reopen (sess : Session) : C (Except Errno Unit × Session) := do
  match ← reopenSession sess with
  | (.TT_OK _, sess) => return (.ok (), sess)
  | (.TT_ERR, sess) => return (.error (← getErrno), sess)

end Rust

/-! ## Python -/

namespace Python

/-- The exceptions the binding raises. -/
inductive PyErr where
  | TTError (errno : Errno)
  | RuntimeError
  deriving DecidableEq, Repr

/-- The retries of a persistent session after a first result. `lost` reads `errno`. -/
def performLoop (op : σ → m (Except PyErr α)) (lost : m Bool)
    (reopen : σ → m (Except PyErr Unit × σ)) :
    (retries : ℕ) → σ → Except PyErr α → m (Except PyErr α × σ)
  | _, sess, .ok value => pure (.ok value, sess)
  | 0, sess, .error err => do
    if ← lost then return (.error (.TTError .ENODEV), sess) else return (.error err, sess)
  | retries + 1, sess, .error err => do
    if ← lost then
      match ← reopen sess with
      | (.error err, sess) => return (.error err, sess)
      | (.ok _, sess) =>
        let res ← op sess
        performLoop op lost reopen retries sess res
    else
      return (.error err, sess)

/-- `Session::perform` -/
def perform (persist : Bool) (op : σ → m (Except PyErr α)) (lost : m Bool)
    (reopen : σ → m (Except PyErr Unit × σ)) (sess : σ) : m (Except PyErr α × σ) := do
  let res ← op sess
  if persist then performLoop op lost reopen RETRIES sess res else return (res, sess)

/-- `crate::err::lost` -/
def lost : C Bool := do
  return (← getErrno) = .ECONNRESET

/-- `crate::err::check` -/
def check (call : C (Result α)) : C (Except PyErr α) := do
  match ← call with
  | .TT_OK out => return .ok out
  | .TT_ERR => return .error (.TTError (← getErrno))

/-- `Session::reopen` -/
def reopen (sess : Session) : C (Except PyErr Unit × Session) := do
  match ← reopenSession sess with
  | (.TT_OK _, sess) => return (.ok (), sess)
  | (.TT_ERR, sess) => return (.error (.TTError (← getErrno)), sess)

end Python

end Perform

/-! ## The two languages agree -/

section Agreement

variable {m : Type → Type} [Monad m] {σ α : Type}

/-- The exception for an error. -/
def raise : Except Errno α → Except Python.PyErr α
  | .ok value => .ok value
  | .error err => .error (.TTError err)

/-- Whenever the operation fails, `lost` tells whether it failed with a lost connection. -/
def ReportsLoss (op : σ → m (Except Errno α)) (lost : m Bool) : Prop :=
  ∀ (sess : σ) (β : Type) (onValue : α → m β) (onError : Errno → Bool → m β),
    (op sess >>= fun res ↦ match res with
      | .ok value => onValue value
      | .error err => lost >>= onError err) =
    op sess >>= fun res ↦ match res with
      | .ok value => onValue value
      | .error err => onError err (err = .ECONNRESET)

variable [LawfulMonad m]

theorem performLoop_agree {op : σ → m (Except Errno α)} {reopen : σ → m (Except Errno Unit × σ)}
    {lost : m Bool} (hlost : ReportsLoss op lost) (retries : ℕ) (sess : σ) :
    (op sess >>= fun res ↦ Python.performLoop (fun sess ↦ raise <$> op sess) lost
      (fun sess ↦ Prod.map raise id <$> reopen sess) retries sess (raise res)) =
    op sess >>= fun res ↦ Prod.map raise id <$> Rust.performLoop op reopen retries sess res := by
  induction retries generalizing sess with
  | zero =>
    refine Eq.trans ?_ ((hlost sess _ (fun value ↦ pure (.ok value, sess)) fun err isLost ↦
      if isLost then pure (.error (.TTError .ENODEV), sess)
      else pure (.error (.TTError err), sess)).trans ?_)
    · refine bind_congr fun res ↦ ?_
      cases res <;> rfl
    · refine bind_congr fun res ↦ ?_
      cases res with
      | ok value => simp [Rust.performLoop, Rust.isLost, raise]
      | error err => by_cases herr : err = .ECONNRESET <;>
          simp [Rust.performLoop, Rust.isLost, raise, herr]
  | succ retries ih =>
    refine Eq.trans ?_ ((hlost sess _ (fun value ↦ pure (.ok value, sess)) fun err isLost ↦
      if isLost then do
        match ← Prod.map raise id <$> reopen sess with
        | (.error err, sess) => return (.error err, sess)
        | (.ok _, sess) =>
          let res ← raise <$> op sess
          Python.performLoop (fun sess ↦ raise <$> op sess) lost
            (fun sess ↦ Prod.map raise id <$> reopen sess) retries sess res
      else pure (.error (.TTError err), sess)).trans ?_)
    · refine bind_congr fun res ↦ ?_
      cases res <;> rfl
    · refine bind_congr fun res ↦ ?_
      cases res with
      | ok value => simp [Rust.performLoop, Rust.isLost, raise]
      | error err =>
        by_cases herr : err = .ECONNRESET
        · simp only [Rust.performLoop, Rust.isLost, herr, decide_true, if_true, map_bind,
            bind_map_left]
          refine bind_congr fun reopened ↦ ?_
          obtain ⟨result, sess'⟩ := reopened
          cases result with
          | error err' => simp [raise]
          | ok => simpa [raise] using ih sess'
        · simp [Rust.performLoop, Rust.isLost, raise, herr]

/-- Both versions make the same calls and report the same error, as long as `errno` still tells
why an operation failed when it is read again. -/
theorem perform_agree {op : σ → m (Except Errno α)} {reopen : σ → m (Except Errno Unit × σ)}
    {lost : m Bool} (hlost : ReportsLoss op lost) (persist : Bool) (sess : σ) :
    Python.perform persist (fun sess ↦ raise <$> op sess) lost
      (fun sess ↦ Prod.map raise id <$> reopen sess) sess =
    Prod.map raise id <$> Rust.perform persist op reopen sess := by
  cases persist with
  | false => simp [Python.perform, Rust.perform]
  | true =>
    simp only [Python.perform, Rust.perform, bind_map_left, if_true, map_bind]
    exact performLoop_agree hlost RETRIES sess

end Agreement

section Library

variable {α : Type}

theorem python_check_eq (call : C (Result α)) : Python.check call = raise <$> Rust.check call := by
  simp only [Python.check, Rust.check, map_bind]
  refine bind_congr fun res ↦ ?_
  cases res <;> simp [raise]

theorem python_reopen_eq (sess : Session) :
    Python.reopen sess = Prod.map raise id <$> Rust.reopen sess := by
  simp only [Python.reopen, Rust.reopen, map_bind]
  refine bind_congr fun res ↦ ?_
  obtain ⟨status, sess⟩ := res
  cases status <;> simp [raise]

/-- A failed library call leaves its error in `errno`. -/
theorem check_reportsLoss (call : Session → C (Result α)) :
    ReportsLoss (fun sess ↦ Rust.check (call sess)) Python.lost := by
  intro sess β onValue onError
  simp only [Rust.check, bind_assoc]
  refine bind_congr fun res ↦ ?_
  cases res with
  | TT_OK out => rfl
  | TT_ERR => rfl

theorem perform_library_agree (persist : Bool) (call : Session → C (Result α)) (sess : Session) :
    Python.perform persist (fun sess ↦ Python.check (call sess)) Python.lost Python.reopen sess =
    Prod.map raise id <$> Rust.perform persist (fun sess ↦ Rust.check (call sess)) Rust.reopen
      sess := by
  rw [← perform_agree (check_reportsLoss call) persist sess]
  congr 1
  · funext sess
    exact python_check_eq (call sess)
  · funext sess
    exact python_reopen_eq sess

end Library

section Rules

variable {W α : Type} {contract : Contract Sys W} {op : Session → C (Except Errno α)}
  {inv : Session → W → Prop} {last : List (Event Sys) → Except Errno α → Session → W → Prop}
  {done : α → Session → W → Prop} {front : List (Event Sys)} {sess : Session} {thread : Thread}
  {w : W}

theorem isLost_iff {res : Except Errno α} :
    Rust.isLost res = true ↔ res = .error .ECONNRESET := by
  cases res <;> simp [Rust.isLost]

/-- The rule for a call checked in Rust. -/
theorem wp_check {call : C (Result α)} {post : Procedure.Post Sys (Except Errno α) Thread W}
    (h : Procedure.wp contract call (fun trace res thread' w' ↦ match res with
      | .TT_OK out => post trace (.ok out) thread' w'
      | .TT_ERR => post trace (.error thread'.errno) thread' w') thread w) :
    Procedure.wp contract (Rust.check call) post thread w := by
  refine Procedure.wp_call h fun trace res thread' w' hres ↦ ?_
  cases res <;> simpa using hres

/-- What each part leaves, with the calls it made, is what the loop leaves. -/
theorem wp_performLoop_last
    (hop : ∀ sess thread w, inv sess w → Procedure.wp contract (op sess)
      (fun trace res _ w' ↦ inv sess w' ∧ last trace res sess w') thread w)
    (hreopen : ∀ sess thread w, inv sess w → Procedure.wp contract (Rust.reopen sess)
      (fun trace res _ w' ↦ match res.1 with
        | .ok _ => inv res.2 w'
        | .error err => last trace (.error err) res.2 w') thread w)
    (hfront : ∀ front trace res sess w, last trace res sess w → last (front ++ trace) res sess w)
    (hlost : ∀ trace sess w, last trace (.error .ECONNRESET) sess w →
      last trace (.error .ENODEV) sess w)
    (retries : ℕ) (res : Except Errno α) (hinv : inv sess w) (hlast : last front res sess w) :
    Procedure.wp contract (Rust.performLoop op Rust.reopen retries sess res)
      (fun rest out _ w' ↦ last (front ++ rest) out.1 out.2 w') thread w := by
  induction retries generalizing front sess thread w res with
  | zero =>
    by_cases hres : Rust.isLost res
    · obtain rfl := isLost_iff.mp hres
      simpa [Rust.performLoop, Rust.isLost] using hlost front sess w hlast
    · simpa [Rust.performLoop, hres] using hlast
  | succ retries ih =>
    by_cases hres : Rust.isLost res
    · simp only [Rust.performLoop, hres, if_true]
      refine Procedure.wp_call (hreopen sess thread w hinv) fun trace reopened _ w' hreopened ↦ ?_
      obtain ⟨result, sess'⟩ := reopened
      cases result with
      | error err => simpa using hfront front trace _ _ _ hreopened
      | ok =>
        refine Procedure.wp_call (hop sess' _ w' hreopened) fun trace' res' thread'' w'' hop' ↦ ?_
        refine Procedure.wp_mono (ih res' hop'.1 hop'.2) fun rest out _ _ hout ↦ ?_
        rw [← List.append_assoc]
        exact hfront (front ++ trace) (trace' ++ rest) _ _ _ hout
    · simpa [Rust.performLoop, hres] using hlast

/-- What the operation and the reopen leave is what the whole leaves. -/
theorem wp_perform_last (persist : Bool)
    (hop : ∀ sess thread w, inv sess w → Procedure.wp contract (op sess)
      (fun trace res _ w' ↦ inv sess w' ∧ last trace res sess w') thread w)
    (hreopen : ∀ sess thread w, inv sess w → Procedure.wp contract (Rust.reopen sess)
      (fun trace res _ w' ↦ match res.1 with
        | .ok _ => inv res.2 w'
        | .error err => last trace (.error err) res.2 w') thread w)
    (hfront : ∀ front trace res sess w, last trace res sess w → last (front ++ trace) res sess w)
    (hlost : ∀ trace sess w, last trace (.error .ECONNRESET) sess w →
      last trace (.error .ENODEV) sess w) (hinv : inv sess w) :
    Procedure.wp contract (Rust.perform persist op Rust.reopen sess)
      (fun trace out _ w' ↦ last trace out.1 out.2 w') thread w := by
  refine Procedure.wp_call (hop sess thread w hinv) fun trace res thread' w' hres ↦ ?_
  cases persist with
  | false => simpa using hres.2
  | true => exact wp_performLoop_last hop hreopen hfront hlost RETRIES res hres.1 hres.2

/-- What the operation and the reopen keep is kept by the whole, and a result is one of the
operation's own. -/
theorem wp_perform (persist : Bool)
    (hop : ∀ sess thread w, inv sess w → Procedure.wp contract (op sess)
      (fun _ res _ w' ↦ inv sess w' ∧ ∀ value, res = .ok value → done value sess w') thread w)
    (hreopen : ∀ sess thread w, inv sess w → Procedure.wp contract (Rust.reopen sess)
      (fun _ res _ w' ↦ inv res.2 w') thread w)
    (hinv : inv sess w) :
    Procedure.wp contract (Rust.perform persist op Rust.reopen sess)
      (fun _ out _ w' ↦ inv out.2 w' ∧ ∀ value, out.1 = .ok value → done value out.2 w')
      thread w := by
  let last (_ : List (Event Sys)) (res : Except Errno α) (sess : Session) (w : W) : Prop :=
    inv sess w ∧ ∀ value, res = .ok value → done value sess w
  have hfailed (sess : Session) (w : W) (err : Errno) (h : inv sess w) : last [] (.error err) sess w :=
    ⟨h, fun _ hvalue ↦ by cases hvalue⟩
  refine @wp_perform_last _ _ _ _ inv last _ _ _ persist ?_ ?_ ?_ ?_ hinv
  · exact fun sess thread w h ↦ Procedure.wp_mono (hop sess thread w h) fun _ _ _ _ hres ↦
      ⟨hres.1, hres⟩
  · refine fun sess thread w h ↦ Procedure.wp_mono (hreopen sess thread w h) fun _ res _ w' hres ↦ ?_
    cases hresult : res.1 with
    | ok value => simpa [hresult] using hres
    | error err => simpa [hresult] using hfailed res.2 w' err hres
  · exact fun _ _ _ _ _ h ↦ h
  · exact fun _ sess w h ↦ hfailed sess w .ENODEV h.1

end Rules

end TtDal.Binding
