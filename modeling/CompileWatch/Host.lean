import CompileWatch.Script
import CompileWatch.Text.Assoc

/-!
# The host

The host is the runtime whose compilations are watched.  A session with it
installs a hook, and when a compilation is completed the host fires the hook,
which puts the compilation into the mailbox of the session that installed it.
Sessions are numbered in the order in which they were opened, so a hook is the
number of its session.

The host has one hook, one switch and one mark for debuggees, whoever set them.  A
session that ends takes all three back, even if another session set them last.
-/

namespace CompileWatch

/-- A completed compilation: its scripts and its graph as the compiler wrote it. -/
structure Compilation where
  scripts : List Script := []
  json : String
  deriving DecidableEq, Repr, Inhabited

/-- The runtime whose compilations are watched. -/
structure Host where
  /-- The session whose hook is installed. -/
  hook : Option Nat := none
  /-- Whether the hook is fired at all. -/
  enabled : Bool := false
  hasDebuggees : Bool := false
  /-- The number of sessions ever opened. -/
  opened : Nat := 0
  /-- The number of sessions that have not ended. -/
  live : Nat := 0
  /-- The compilations that wait in each session that has not ended, oldest first. -/
  mailboxes : Assoc Nat (List Compilation) := []
  deriving DecidableEq, Repr, Inhabited

namespace Host

/-- The mailbox of a session that has not ended. -/
def mailbox? (host : Host) (session : Nat) : Option (List Compilation) :=
  host.mailboxes.get? session

/-- Opens a session that receives compilations, and gives its number. -/
def openSession (host : Host) : Nat × Host :=
  (host.opened,
    { hook := some host.opened
      enabled := true
      hasDebuggees := true
      opened := host.opened + 1
      live := host.live + 1
      mailboxes := host.mailboxes.set host.opened [] })

/-- Ends a session, whose mailbox is dropped with all that waits in it. -/
def endSession (host : Host) (session : Nat) : Host :=
  { hook := none
    enabled := false
    hasDebuggees := false
    opened := host.opened
    live := host.live - 1
    mailboxes := host.mailboxes.filter fun mailbox => mailbox.1 ≠ session }

/-- Fires the hook of a session.  Nothing happens if the session has ended. -/
def fire? (host : Host) (session : Nat) (compilation : Compilation) : Option Host :=
  (host.mailbox? session).map fun waiting =>
    { host with mailboxes := host.mailboxes.set session (waiting ++ [compilation]) }

/-- Completes a compilation.  Nothing happens unless a hook is installed and switched on, and the
session that installed it has not ended. -/
def compile? (host : Host) (compilation : Compilation) : Option Host :=
  if host.enabled then host.hook.bind fun session => host.fire? session compilation else none

/-- Takes the oldest compilation out of the mailbox of a session. -/
def take? (host : Host) (session : Nat) : Option (Compilation × Host) :=
  match host.mailbox? session with
  | some (compilation :: rest) =>
    some (compilation, { host with mailboxes := host.mailboxes.set session rest })
  | _ => none

/-- The number of compilations that wait in all mailboxes. -/
def waiting (host : Host) : Nat :=
  host.mailboxes.foldl (fun count mailbox => count + mailbox.2.length) 0

end Host

end CompileWatch
