import Stencil.CommandLine.Help
import Stencil.CommandLine.Run

/-! # The program

The outer layer: it gives the words of the command line to the library, lets it use the files of the
system, and prints what comes back. -/

namespace Stencil

/-- The fault that an error of the system is. -/
def faultOf : IO.Error → FileFault
  | .noFileOrDirectory .. => .notFound
  | .alreadyExists .. => .alreadyExists
  | .inappropriateType _ code reason =>
    if code = 20 then .notDirectory else if code = 21 then .isDirectory else .other reason
  | e => .other (toString e)

/-- Do something with files, and give back a fault instead of failing. -/
def attempt {α : Type} (act : IO α) : IO (Except FileFault α) := do
  return (← act.toBaseIO).mapError faultOf

instance : FileAccess IO where
  readText path := do
    match ← attempt (IO.FS.readBinFile path) with
    | .error fault => return .error fault
    | .ok content => return (String.fromUTF8? content).elim (.error .notText) .ok
  createDirectories path :=
    if path.isEmpty then return .ok () else attempt (IO.FS.createDirAll path)
  writeText path content := attempt (IO.FS.writeFile path content)

namespace CommandLine

/-- Print what a command has yielded: the code that the program ends with. -/
def Output.deliver (layout : Layout) (nanos : Nat) (output : Output) : IO UInt32 := do
  IO.print (output.text layout nanos)
  match output with
  | .service _ port =>
    IO.eprintln ("Error: Configuration error: Failed to bind to port " ++ toString port ++
      ": there are no sockets")
    return 1
  | _ => return 0

/-- Run the program on the words of its command line. -/
def start (words : List String) : IO UInt32 := do
  match Invocation.ofWords words with
  | .error usage =>
    if usage.exitCode = 0 then IO.print usage.text else IO.eprint usage.text
    return UInt32.ofNat usage.exitCode
  | .ok call =>
    let begun ← IO.monoNanosNow
    match ← (call.command.run : ExceptT Problem IO Output).run with
    | .error p =>
      IO.eprintln ("Error: " ++ p.message)
      return 1
    | .ok output => output.deliver call.layout ((← IO.monoNanosNow) - begun)

end CommandLine
end Stencil

/-- The program. -/
def main (words : List String) : IO UInt32 := Stencil.CommandLine.start words
