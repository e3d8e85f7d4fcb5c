import TruckDepot.Command.Run

/-!
# The program

Runs the command on the machine: files are the machine's files, results go to standard output, and
lines about the run to standard error. -/

namespace TruckDepot.Command

/-- The reason for a failed file operation, with its number. -/
def reason : IO.Error → String
  | .noFileOrDirectory _ code details => numbered details code
  | .inappropriateType _ code details => numbered details code
  | .permissionDenied _ code details => numbered details code
  | .invalidArgument _ code details => numbered details code
  | .resourceExhausted _ code details => numbered details code
  | .alreadyExists _ code details => numbered details code
  | .otherError code details => numbered details code
  | e => toString e
where
  /-- A reason with its number. -/
  numbered (details : String) (code : UInt32) : String :=
    details ++ " (os error " ++ toString code ++ ")"

/-- The text that some bytes encode. -/
def decoded (bytes : ByteArray) : Except String String :=
  match String.fromUTF8? bytes with
  | some text => .ok text
  | none => .error "stream did not contain valid UTF-8"

/-- The machine as the world around the command. -/
def machine : Host IO where
  readFile path := do
    try
      let handle ← IO.FS.Handle.mk path .read
      return decoded (← handle.readBinToEnd)
    catch e => return .error (reason e)
  writeFile path text := do
    try return .ok (← IO.FS.writeFile path text)
    catch e => return .error (reason e)
  print line := IO.println line
  report line := IO.eprintln line

end TruckDepot.Command

/-- Runs the command with the arguments of the program. -/
def main (arguments : List String) : IO UInt32 := do
  return if ← TruckDepot.Command.command TruckDepot.Command.machine arguments then 0 else 1
