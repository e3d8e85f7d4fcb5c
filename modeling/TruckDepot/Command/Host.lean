/-!
# Hosts

What the command needs from the world around it: files to read and to write, and two places to
print to. The command is written over any `Host`; the program runs it in `IO`, and a `Session`
runs it on a folder that is only a value. -/

namespace TruckDepot.Command

/-- The world around the command. A file that cannot be had comes with the reason. -/
structure Host (m : Type → Type) where
  /-- The text of a file. -/
  readFile : String → m (Except String String)
  /-- Makes a file with a text, in place of an old one. -/
  writeFile : String → String → m (Except String Unit)
  /-- Prints a line of the result. -/
  print : String → m Unit
  /-- Prints a line about the run. -/
  report : String → m Unit

end TruckDepot.Command
