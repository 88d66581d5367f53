import FaultInjection.CommandLine.Invocation
import FaultInjection.CommandLine.Local
import FaultInjection.Demo

/-!
# The command-line program

Carries out one command on a control plane of its own, which knows the failpoints of the demonstration
functions, and prints the body of the reply.
-/

namespace FaultInjection

/-- What the program says when there is no command to carry out. -/
def UsageError.notice : UsageError → String
  | .help | .nothingGiven => "usage: failswitch-cli [-v]... [-u URL] COMMAND\n" ++
      "commands: " ++ ", ".intercalate (CommandWord.all.map (·.text)) ++ ", help"
  | .version => "failswitch-cli"
  | .missingCommand => "error: a command is required"
  | .unknownCommand => "error: no such command"
  | .unknownArgument => "error: unexpected argument"
  | .missingArgument => "error: the command needs another argument"
  | .missingValue => "error: the option needs a value"
  | .needlessValue => "error: the option takes no value"
  | .repeatedOption => "error: the option is given twice"

/-- The exit code when there is no command to carry out. -/
def UsageError.exitCode : UsageError → UInt32
  | .help | .version => 0
  | _ => 2

/-- What the program says when a command has no reply. -/
def ExecutionError.notice : ExecutionError → String
  | .endpoint e => "error: " ++ e.message
  | .transport => "error: the request was not carried"

/-- The body of a reply as a line or as lines. -/
def Reply.printed (r : Reply) : String :=
  if r.body.isEmpty ∨ r.body.endsWith "\n" then r.body else r.body ++ "\n"

end FaultInjection

open FaultInjection

/-- Read the command line, carry out the command, and print the reply. -/
def main (arguments : List String) : IO UInt32 := do
  let environmentUrl ← IO.getEnv Invocation.urlVariable
  match Invocation.ofArguments environmentUrl arguments with
  | .error e =>
    IO.eprintln e.notice
    return e.exitCode
  | .ok i =>
    match Registry.ofNames DemoFunction.failpoints with
    | .error e =>
      IO.eprintln e.message
      return 1
    | .ok r =>
      match (i.command.run i.url r).1 with
      | .ok reply =>
        IO.print reply.printed
        return if reply.isSuccess then 0 else 1
      | .error e =>
        IO.eprintln e.notice
        return 1
