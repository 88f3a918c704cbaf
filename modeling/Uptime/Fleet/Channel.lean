/-!
# Stop channels

The channel on which a loop hears that it has to end. It carries a single message. Who listens is
answered as soon as the message is there, or nobody is left who could send it; before that there is
nothing to be heard.
-/

namespace Uptime.Fleet

/-- The channel on which a loop hears that it has to end. -/
structure Channel where
  /-- Whether the message was sent. -/
  sent : Bool := false
  /-- How many are left who can send it. -/
  senders : Nat := 1
deriving DecidableEq, Repr

namespace Channel

/-- What is heard on a channel. -/
inductive Answer where
  /-- The message that the loop has to end. -/
  | message
  /-- Nobody is left who could send it. -/
  | closed
deriving DecidableEq, Repr

/-- The channel with the message sent. -/
def send (c : Channel) : Channel := { c with sent := true }

/-- The channel after all who could send were let go. -/
def close (c : Channel) : Channel := { c with senders := 0 }

/-- What is heard by one who listens now. A message that was sent is heard even if nobody could
send another one. -/
def heard? (c : Channel) : Option Answer :=
  if c.sent then some .message else if c.senders = 0 then some .closed else none

/-- Whether anything is heard by one who listens now. -/
def isReady (c : Channel) : Bool := c.heard?.isSome

@[simp] theorem isReady_send (c : Channel) : c.send.isReady = true := rfl

@[simp] theorem isReady_close (c : Channel) : c.close.isReady = true := by
  cases h : c.sent <;> simp [isReady, heard?, close, h]

/-- While there are senders, only the message is heard. -/
theorem isReady_eq_sent {c : Channel} (h : c.senders ≠ 0) : c.isReady = c.sent := by
  cases hs : c.sent <;> simp [isReady, heard?, hs, h]

end Channel

end Uptime.Fleet
