import TtDal.Driver.Mailbox

/-!
# The message slot behind a session that is reopened

A session names one descriptor at a time, and each descriptor comes with an empty slot of its own.
The messages of all of them are numbered together, so a number names one message for good.
-/

namespace TtDal.Driver

open Effect Platform

structure Channel where
  /-- The descriptor the slot belongs to, while it is open. -/
  fd : Option ℤ
  /-- How often a descriptor was opened or closed. -/
  generation : ℕ
  mailbox : Mailbox

namespace Channel

/-- Another descriptor, or none, with an empty slot. The outstanding message is lost. -/
def replaced (channel : Channel) (fd : Option ℤ) : Channel where
  fd := fd
  generation := channel.generation + 1
  mailbox := channel.mailbox.consume

def withMailbox (channel : Channel) (mailbox : Mailbox) : Channel :=
  { channel with mailbox := mailbox }

/-- A message request reaches the slot of the open descriptor, or fails before it does, as it does
once the descriptor is closed or severed. -/
def answersMessage (channel : Channel) (fd : ℤ) (msg : SmcMsgIoctl) (reply : Reply SmcMsg)
    (channel' : Channel) : Prop :=
  (channel.fd = some fd ∧ ∃ mailbox, channel.mailbox.answersMessage msg reply mailbox ∧
    channel' = channel.withMailbox mailbox) ∨
  reply.isOk = false ∧ channel' = channel

def answers (borrowable : Bool) : (op : Syscall) → Channel → op.Answer → Channel → Prop
  | .smcMsg fd msg, channel, reply, channel' => channel.answersMessage fd msg reply channel'
  | .openFile _ _, channel, .ok fd _, channel' => channel' = channel.replaced (some fd)
  | .openFile _ _, channel, .fail _, channel' => channel' = channel
  | .close fd, channel, _, channel' =>
    channel' = if channel.fd = some fd then channel.replaced none else channel
  | .tryBorrow, channel, granted, channel' => granted = borrowable ∧ channel' = channel
  | _, channel, _, channel' => channel' = channel

/-- The driver, while the session object can or cannot be borrowed. -/
def contract (borrowable : Bool) : Contract Sys Channel where
  answers := answers borrowable
  permits _ _ := True
  tolerates _ := True

end Channel

end TtDal.Driver
