import OnDemand.CommandLine

/-!
# The program

Settings are read from the standard input, and what a command prints goes to the
standard output. A failure is reported on the standard error.
-/

namespace OnDemand

/-- All that is left of an input. -/
partial def readAll (input : IO.FS.Stream) (before : String) : IO String := do
  let line ← input.getLine
  if line.isEmpty then return before else readAll input (before ++ line)

/-- Carry out the command that arguments give. -/
def run (arguments : List String) : IO UInt32 := do
  match Command.ofArguments arguments with
  | .error fault =>
      IO.eprintln fault.message
      return 2
  | .ok command =>
      let document ←
        if command.readsSettings then readAll (← IO.getStdin) "" else pure ""
      match command.lines document with
      | .error fault =>
          IO.eprintln ("Error: " ++ fault.message)
          return 1
      | .ok lines =>
          for line in lines do IO.println line
          return 0

end OnDemand

def main (arguments : List String) : IO UInt32 := OnDemand.run arguments
