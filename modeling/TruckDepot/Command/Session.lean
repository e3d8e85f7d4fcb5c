import TruckDepot.Command.Folder
import TruckDepot.Command.Run

/-!
# Sessions

A session runs the command on a folder that is only a value, and keeps all that is printed. This
is what the command means, apart from any machine it runs on. -/

namespace TruckDepot.Command

/-- The world of a session. -/
structure Session where
  /-- The files. -/
  folder : Folder
  /-- All lines of the result so far. -/
  output : String
  /-- All lines about the run so far. -/
  reports : String
  deriving DecidableEq, Repr

namespace Session

/-- A session before its first line. -/
def start (folder : Folder) : Session :=
  ⟨folder, "", ""⟩

/-- A session as the world around the command. -/
def host : Host (StateM Session) where
  readFile path := return ((← get).folder.read path).mapError FileError.message
  writeFile path text := do
    let session ← get
    match session.folder.write path text with
    | .ok folder => set { session with folder }; return .ok ()
    | .error e => return .error e.message
  print line := modify fun s => { s with output := s.output ++ line ++ "\n" }
  report line := modify fun s => { s with reports := s.reports ++ line ++ "\n" }

/-- Runs the command on a folder: whether nothing failed, and the session afterwards. -/
def run (folder : Folder) (arguments : List String) : Bool × Session :=
  (command host arguments).run (start folder)

end Session

end TruckDepot.Command
