import TtDal.Dev.Trap
import TtDal.Effect.System

/-!
# Handlers over the guard

Other handlers may be installed for `SIGBUS` after the guard's. Each passes a signal on: it calls
the handler below it with what it was told, or it restores that handler and raises the signal
again. A raised signal is delivered inside the handler that raises it or as soon as the handlers
return, which is the same to a handler that does nothing behind it, and in either case before the
access is retried.
-/

namespace TtDal.Driver

open Effect Platform Dev

/-- A handler that was installed over the guard's. -/
inductive Cover where
  | forwards
  | reraises
  deriving DecidableEq, Repr

/-- Where the thread of the access is. -/
inductive Point where
  /-- At the access, which faults. -/
  | access
  /-- In the first of these handlers, or in the guard's behind the last. -/
  | running (handlers : List Cover) (info : Siginfo)
  /-- Behind the handlers, on the way back to the access. -/
  | returning
  /-- At the recovery point of a thread. -/
  | resumed (thread : ℕ)
  /-- In the handler that was installed before the guard's. -/
  | chained
  | dead
  deriving DecidableEq, Repr

structure Process where
  /-- The armed range of each thread. -/
  guards : ℕ → Guard
  /-- The handlers over the guard's, the installed one first, and `none` for the default action. -/
  installed : Option (List Cover)
  /-- The signal was raised and not delivered yet. -/
  pending : Bool
  point : Point

namespace Process

/-- The process at an access that faults. -/
def faulting (guards : ℕ → Guard) (covers : List Cover) : Process where
  guards := guards
  installed := some covers
  pending := false
  point := .access

/-- Deliver the signal. -/
def deliver (s : Process) (info : Siginfo) : Process :=
  match s.installed with
  | some covers => { s with pending := false, point := .running covers info }
  | none => { s with pending := false, point := .dead }

/-- Run the guard's handler on a thread. -/
def handle (s : Process) (prev : Disposition) (thread : ℕ) (info : Siginfo) : Process :=
  match handler (s.guards thread) prev info with
  | .returned => { s with point := .returning }
  | .recovered =>
    { s with
      guards := Function.update s.guards thread { s.guards thread with ptr := NULL }
      point := .resumed thread }
  | .chained => { s with point := .chained }
  | .fatal => { s with installed := none, pending := true, point := .returning }

/-- A step of the thread whose access faults at an address. -/
inductive Step (prev : Disposition) (thread addr : ℕ) : Process → Process → Prop where
  | fault {s : Process} : s.point = .access →
      Step prev thread addr s (s.deliver { addr := addr, raised := false })
  | forwards {s : Process} {below : List Cover} {info : Siginfo} :
      s.point = .running (.forwards :: below) info →
      Step prev thread addr s { s with point := .running below info }
  | reraises {s : Process} {below : List Cover} {info : Siginfo} :
      s.point = .running (.reraises :: below) info →
      Step prev thread addr s { s with installed := some below, pending := true, point := .returning }
  | guarded {s : Process} {info : Siginfo} : s.point = .running [] info →
      Step prev thread addr s (s.handle prev thread info)
  /-- A raised signal carries no address of a fault. -/
  | raised {s : Process} (other : ℕ) : s.point = .returning → s.pending = true →
      Step prev thread addr s (s.deliver { addr := other, raised := true })
  | retried {s : Process} : s.point = .returning → s.pending = false →
      Step prev thread addr s { s with point := .access }

/-- The thread of an access that faults, with handlers over the guard's. -/
def signals (prev : Disposition) (guards : ℕ → Guard) (covers : List Cover) (thread addr : ℕ) :
    System Process Unit where
  starts s := s = faulting guards covers
  moves s _ s' := Step prev thread addr s s'

end Process

end TtDal.Driver
