import BenchQueue.Machine.Shell.Run
/-!
# Starting programs

A command is started in a directory, with its outputs going where it says, and waited for.
-/

namespace BenchQueue.Machine

/-- The steps that a program may take. -/
def programFuel : Nat := 1000000

/-- The outlet of a sink, given that of the program that starts the command and the number of the
buffer for captured output. -/
def Sink.outlet (inherited : Outlet) (number : Nat) : Sink → Outlet
  | .inherited => inherited
  | .file path => .file path
  | .captured => .buffer number

/-- Starts the program of a command in a directory and waits for its end. -/
def launch (cwd : Path) (c : Command) : Program (Except Fault Finished) := do
  let host ← askMachine .look
  let inside := match c.workingDir with
    | none => some cwd
    | some dir =>
      match host.files.resolve cwd dir, host.files.isDirectory cwd dir with
      | .ok path, true => some path
      | _, _ => none
  match inside with
  | none =>
    match host.files.lookup cwd (c.workingDir.getD "") with
    | .error fault => pure (.error fault)
    | .ok _ => pure (.error .notDirectory)
  | some path =>
    if c.program = "" then return .error .notFound
    let sh : Shell :=
      { number := Shell.starterNumber, cwd := path, out := c.stdout.outlet .discard 0,
        err := c.stderr.outlet .starter 1, buffers := ["", ""] }
    match ← Shell.runProgram programFuel sh c.program c.arguments with
    | (.error fault, _) => pure (.error fault)
    | (.ok status, sh) =>
      pure (.ok { status, output := sh.buffers.getD 0 "", diagnostics := sh.buffers.getD 1 "" })

end BenchQueue.Machine
