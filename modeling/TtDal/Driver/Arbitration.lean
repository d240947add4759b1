import TtDal.Dev.Session

/-!
# Arbitration of a device between processes

The driver treats the device node as a reader/writer lock that is taken by `open(2)`. An open with
`O_EXCL` is granted while no other open file description of the device exists, and a plain open
while there is no exclusive one. An open that is not granted waits, or fails with `EAGAIN`. A reset
severs every description but the one it was issued on.

Each client is a process with its own descriptor numbers.
-/

namespace TtDal.Driver

open Effect Platform Dev

/-- An open file description of the device. -/
structure Description where
  excl : Bool
  severed : Bool
  deriving DecidableEq, Repr

/-- The open file descriptions of the device, by the client and the number they are open under. -/
structure Node (Client : Type) where
  descriptions : Client × ℤ → Option Description

namespace Node

variable {Client : Type}

def Open (node : Node Client) (key : Client × ℤ) : Prop :=
  node.descriptions key ≠ none

/-- The description is the only one of the device. -/
def Sole (node : Node Client) (key : Client × ℤ) : Prop :=
  node.Open key ∧ ∀ other, node.Open other → other = key

/-- The lock can be taken at once. -/
def Admits (node : Node Client) (flags : OpenFlags) : Prop :=
  ∀ key description, node.descriptions key = some description →
    flags.excl = false ∧ description.excl = false

/-- An exclusive description is alone, and nobody was severed. -/
structure Orderly (node : Node Client) : Prop where
  alone : ∀ key description, node.descriptions key = some description →
    description.excl = true → ∀ other, node.Open other → other = key
  spared : ∀ key description, node.descriptions key = some description →
    description.severed = false

/-- The client holds the device exclusively under the number. -/
def Held (node : Node Client) (key : Client × ℤ) : Prop :=
  ∃ description, node.descriptions key = some description ∧ description.excl = true

section Orderly

variable {node : Node Client} {key : Client × ℤ} {flags : OpenFlags}

theorem Held.sole (hheld : node.Held key) (h : node.Orderly) : node.Sole key := by
  obtain ⟨description, hkey, hexcl⟩ := hheld
  refine ⟨?_, h.alone key description hkey hexcl⟩
  rw [Open, hkey]
  exact Option.some_ne_none _

theorem Open.not_admits (h : node.Open key) (hexcl : flags.excl = true) :
    ¬node.Admits flags := by
  intro hadmits
  obtain ⟨description, hkey⟩ := Option.ne_none_iff_exists'.mp h
  have hshared := (hadmits key description hkey).1
  rw [hexcl] at hshared
  cases hshared

/-- Closing descriptions keeps the order. -/
theorem Orderly.shrink {node' : Node Client} (h : node.Orderly)
    (hshrink : ∀ key description, node'.descriptions key = some description →
      node.descriptions key = some description) : node'.Orderly where
  alone key description hkey hexcl other hother := by
    obtain ⟨description', hother'⟩ := Option.ne_none_iff_exists'.mp hother
    apply h.alone key description (hshrink key description hkey) hexcl other
    rw [Open, hshrink other description' hother']
    exact Option.some_ne_none _
  spared key description hkey := h.spared key description (hshrink key description hkey)

end Orderly

/-! ## System calls -/

variable [DecidableEq Client]

/-- A reset severs the sessions of everybody else. -/
def severedBut (node : Node Client) (key : Client × ℤ) : Node Client where
  descriptions other :=
    if other = key then node.descriptions other
    else (node.descriptions other).map fun description ↦ { description with severed := true }

def opened (node : Node Client) (key : Client × ℤ) (excl : Bool) :
    Node Client where
  descriptions :=
    Function.update node.descriptions key (some { excl := excl, severed := false })

def closed (node : Node Client) (key : Client × ℤ) : Node Client where
  descriptions := Function.update node.descriptions key none

/-- Nothing of a process stays open when it ends. -/
def exited (node : Node Client) (client : Client) : Node Client where
  descriptions key := if key.1 = client then none else node.descriptions key

def answersOpen (node : Node Client) (client : Client) (flags : OpenFlags) :
    Reply ℕ → Node Client → Prop
  | .ok fd _, node' =>
    node.descriptions (client, fd) = none ∧ node.Admits flags ∧
      node' = node.opened (client, fd) flags.excl
  | .fail err, node' => (¬node.Admits flags → err = .EAGAIN) ∧ node' = node

/-- Another file. The number it is given is not one of the client's open numbers. -/
def answersOther (node : Node Client) (client : Client) : Reply ℕ → Node Client → Prop
  | .ok fd _, node' => node.descriptions (client, fd) = none ∧ node' = node
  | .fail _, node' => node' = node

def answers (dev : Device) (client : Client) :
    (op : Syscall) → Node Client → op.Answer → Node Client → Prop
  | .openFile path flags, node, reply, node' =>
    if path = devicePath dev then node.answersOpen client flags reply node'
    else node.answersOther client reply node'
  | .close fd, node, _, node' => node' = node.closed (client, fd)
  | .resetDevice fd req, node, _, node' =>
    node' = if req.flags = .ASIC_RESET ∧ node.descriptions (client, fd) ≠ none then
        node.severedBut (client, fd)
      else node
  | _, node, _, node' => node' = node

/-- The driver as one client sees it. -/
def contract (dev : Device) (client : Client) : Contract Sys (Node Client) where
  answers := answers dev client
  permits _ _ := True
  tolerates _ := True

section Updates

variable {node : Node Client} {key : Client × ℤ} {flags : OpenFlags}

theorem Orderly.opened (h : node.Orderly) (hfree : node.descriptions key = none)
    (hadmits : node.Admits flags) : (node.opened key flags.excl).Orderly where
  alone first description hfirst hexcl second hsecond := by
    by_contra hne
    by_cases hkey : first = key
    · subst hkey
      -- A new exclusive description: nothing else was open.
      have hother : node.descriptions second ≠ none := by
        simpa [Node.Open, Node.opened, Function.update_of_ne hne] using hsecond
      obtain ⟨description', hdescription'⟩ := Option.ne_none_iff_exists'.mp hother
      have hshared := (hadmits second description' hdescription').1
      simp only [Node.opened, Function.update_self, Option.some.injEq] at hfirst
      rw [← hfirst] at hexcl
      exact Bool.false_ne_true (hshared.symm.trans hexcl)
    · -- An old exclusive description: nothing is opened beside it.
      simp only [Node.opened, Function.update_of_ne hkey] at hfirst
      have hshared := (hadmits first description hfirst).2
      exact Bool.false_ne_true (hshared.symm.trans hexcl)
  spared first description hfirst := by
    by_cases hkey : first = key
    · subst hkey
      simp only [Node.opened, Function.update_self, Option.some.injEq] at hfirst
      rw [← hfirst]
    · simp only [Node.opened, Function.update_of_ne hkey] at hfirst
      exact h.spared first description hfirst

theorem closed_shrink (key other : Client × ℤ) (description : Description)
    (h : (node.closed key).descriptions other = some description) :
    node.descriptions other = some description := by
  by_cases hkey : other = key
  · subst hkey
    simp [Node.closed] at h
  · simpa [Node.closed, Function.update_of_ne hkey] using h

theorem exited_shrink (client : Client) (key : Client × ℤ) (description : Description)
    (h : (node.exited client).descriptions key = some description) :
    node.descriptions key = some description := by
  by_cases hkey : key.1 = client
  · simp [Node.exited, hkey] at h
  · simpa [Node.exited, hkey] using h

/-- A reset issued by the only client severs nobody. -/
theorem Sole.severedBut_eq (h : node.Sole key) : node.severedBut key = node := by
  have hdescriptions : (node.severedBut key).descriptions = node.descriptions := by
    funext other
    by_cases hkey : other = key
    · exact if_pos hkey
    · have hclosed : node.descriptions other = none := by
        by_contra hopen
        exact hkey (h.2 other hopen)
      simp [Node.severedBut, hkey, hclosed]
  exact congrArg Node.mk hdescriptions

end Updates

end Node

end TtDal.Driver
