/-
Requests: one call of a function, as a command line asks for it. The persistent globals can be
restored from a file before the call and saved to one after it.
-/

import Gamecode.Files
import Gamecode.Session.State

namespace Gamecode

/-- What a run of a function is to do. -/
structure Request where
  function : String
  /-- The words that stand for the arguments. -/
  arguments : List String
  returns : ReturnKind
  tracing : Bool
  /-- The files of the globals before and after the call. -/
  restoreFrom : Option String
  saveTo : Option String
deriving Repr, DecidableEq

namespace Session

variable {m : Type → Type} [Monad m] [Files m]

/-- Restore the persistent globals from a file. -/
def restore (session : Session) (file : String) : m (Attempt Unit) := do
  match ← Files.readText file with
  | .error problem => return (.error (.file problem), session)
  | .ok text => return session.loadGlobals text

/-- Save the persistent globals to a file. -/
def save (session : Session) (file : String) : m (Except Failure Unit) := do
  match session.saveGlobals with
  | .error failure => return .error failure
  | .ok text => return (← Files.write file text).mapError .file

/-- Restore, where a request names a file for it. -/
def restoreBefore (session : Session) (request : Request) : m (Attempt Unit) :=
  match request.restoreFrom with
  | none => return (.ok (), session)
  | some file => session.restore file

/-- Save, where a request names a file for it. -/
def saveAfter (session : Session) (request : Request) : m (Except Failure Unit) :=
  match request.saveTo with
  | none => return .ok ()
  | some file => session.save file

/-- Restore, call, save. The result is the text of what the function returned. -/
def serve (session : Session) (request : Request) : m (Attempt (Option String)) := do
  let (restored, session) ← session.restoreBefore request
  let .ok () := restored | return (restored.map fun _ => none, session)
  let (called, session) :=
    (session.setTracing request.tracing).call request.function request.arguments
  match called with
  | .error failure => return (.error failure, session)
  | .ok value =>
    let saved ← session.saveAfter request
    return (saved.map fun _ => session.resultText? value request.returns, session)

end Session

end Gamecode
