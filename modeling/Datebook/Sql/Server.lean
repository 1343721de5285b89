import Datebook.Sql.Calendar

/-!
Scripted database servers.

A `Server` gives each statement the next reply of its script and keeps a log of the statements;
without a reply left it returns no rows. A server out of reach gives no reply to anything, and a
closed pool sends it nothing.
-/

set_option autoImplicit false

namespace Datebook.Sql

structure Server where
  /-- Why no connection can be made, if none can. -/
  outOfReach : Option String := none
  script : List Reply := []
  /-- The executed statements, the latest first. -/
  executed : List Statement := []
  /-- Whether the pool of connections is closed. -/
  closed : Bool := false
  deriving Repr

namespace Server

/-- The reply to a statement. -/
def answer (statement : Statement) (server : Server) : Reply × Server :=
  if server.closed then (.error .closed, server)
  else
    match server.outOfReach with
    | some reason => (.error (.transport reason), server)
    | none =>
      let server := { server with executed := statement :: server.executed }
      match server.script with
      | [] => (.ok {}, server)
      | reply :: script => (reply, { server with script })

/-- A server with a new script and an empty log. -/
def rescripted (server : Server) (script : List Reply) : Server :=
  { server with script, executed := [] }

/-- The executed statements in order. -/
def log (server : Server) : List Statement :=
  server.executed.reverse

/-- Plays a call; closing the calendar closes the pool. -/
def perform (server : Server) (call : Call) :
    Except StorageError Answer × Dialogue.Trace × Server :=
  let (result, trace, server) := (Calendar.perform call).run answer server
  (result, trace, if call = .close then { server with closed := true } else server)

end Server

end Datebook.Sql
