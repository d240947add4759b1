import TtDal.Dev.Power
import TtDal.Dev.Reset
import TtDal.Dev.Smc
import TtDal.Dev.Telemetry

/-!
# The public functions

The functions that `ttdal.h` declares, as the operations of a signature. A client is a program over
that signature. It decides each call from what it was given by the calls before, and
`Request.run` serves the call.
-/

namespace TtDal.Dev

open Effect Platform

/-- A call of a public function with its arguments. A null pointer is `none`. -/
inductive Request where
  | ttKmdVersion (version : Option Version)
  | ttFwVersion (sess : Option Session) (version : Option Version)
  | ttDevFromPath (path : Option String) (dev : Option Device)
  | ttDevFromBdf (addr : Option String) (dev : Option Device)
  | ttDevScan (cap : ℕ)
  | ttOpen (dev : Option Device) (sess : Option Session) (flags : UInt16)
  | ttClose (sess : Option Session)
  | ttReopen (sess : Option Session)
  | ttDevInfo (sess : Option Session) (info : Option DevInfo)
  | ttTlbAlloc (sess : Option Session) (size mode : ℕ) (tlb : Option Tlb)
  | ttTlbBind (sess : Option Session) (tlb : Option Tlb) (cfg : Option TlbConfig)
  | ttTlbFree (sess : Option Session) (tlb : Option Tlb)
  | ttSmcCall (sess : Option Session) (req rsp : Option Ref) (timeout : UInt32)
  | ttSmcPost (sess : Option Session) (req : Option Ref)
  | ttSmcPoll (sess : Option Session) (rsp : Option Ref)
  | ttSmcWait (sess : Option Session) (rsp : Option Ref) (timeout : UInt32)
  | ttSmcDrop (sess : Option Session)
  | ttTelemetry (sess : Option Session) (table : Option Ref)
  | ttPower (sess : Option Session) (flags : UInt16)
  | ttReset (dev : Option Device)
  | ttResetWith (sess : Option Session)

/-- The status and the objects written through a pointer. The messages and tables of the caller are
named by address and part of the thread. -/
abbrev Request.Answer : Request → Type
  | .ttKmdVersion _ => Status × Option Version
  | .ttFwVersion _ _ => Status × Option Version
  | .ttDevFromPath _ _ => Status × Option Device
  | .ttDevFromBdf _ _ => Status × Option Device
  | .ttDevScan _ => Result (ℕ × List Device)
  | .ttOpen _ _ _ => Status × Option Session
  | .ttClose _ => Status × Option Session
  | .ttReopen _ => Status × Option Session
  | .ttDevInfo _ _ => Status × Option DevInfo
  | .ttTlbAlloc _ _ _ _ => Status × Option Tlb
  | .ttTlbBind _ _ _ => Status × Option Tlb
  | .ttTlbFree _ _ => Status × Option Tlb
  | .ttSmcCall _ _ _ _ => Status
  | .ttSmcPost _ _ => Status
  | .ttSmcPoll _ _ => Status
  | .ttSmcWait _ _ _ => Status
  | .ttSmcDrop _ => Status
  | .ttTelemetry _ _ => Status
  | .ttPower _ _ => Status
  | .ttReset _ => Status
  | .ttResetWith _ => Status × Option Session

/-- The library as its clients see it. -/
abbrev Api : Signature where
  Op := Request
  Answer := Request.Answer

/-- Serve a call, with the loops of the library observed for a number of rounds. -/
def Request.run (rounds : ℕ) : (request : Request) → C request.Answer
  | .ttKmdVersion version => Dev.ttKmdVersion rounds version
  | .ttFwVersion sess version => Dev.ttFwVersion sess version
  | .ttDevFromPath path dev => Dev.ttDevFromPath path dev
  | .ttDevFromBdf addr dev => Dev.ttDevFromBdf rounds addr dev
  | .ttDevScan cap => Dev.ttDevScan rounds cap
  | .ttOpen dev sess flags => Dev.ttOpen dev sess flags
  | .ttClose sess => Dev.ttClose sess
  | .ttReopen sess => Dev.ttReopen sess
  | .ttDevInfo sess info => Dev.ttDevInfo sess info
  | .ttTlbAlloc sess size mode tlb => Dev.ttTlbAlloc sess size mode tlb
  | .ttTlbBind sess tlb cfg => Dev.ttTlbBind sess tlb cfg
  | .ttTlbFree sess tlb => Dev.ttTlbFree sess tlb
  | .ttSmcCall sess req rsp timeout => Dev.ttSmcCall rounds sess req rsp timeout
  | .ttSmcPost sess req => Dev.ttSmcPost sess req
  | .ttSmcPoll sess rsp => Dev.ttSmcPoll sess rsp
  | .ttSmcWait sess rsp timeout => Dev.ttSmcWait rounds sess rsp timeout
  | .ttSmcDrop sess => Dev.ttSmcDrop sess
  | .ttTelemetry sess table => Dev.ttTelemetry sess table
  | .ttPower sess flags => Dev.ttPower sess flags
  | .ttReset dev => Dev.ttReset rounds dev
  | .ttResetWith sess => Dev.ttResetWith rounds sess

end TtDal.Dev
