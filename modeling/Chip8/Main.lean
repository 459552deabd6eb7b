import Chip8.CommandLine

set_option autoImplicit false

/-! # The program

Reads the files that the arguments name, runs, and prints. -/

namespace Chip8

/-- Why the system refuses to read a file. -/
def FileError.ofSystem : IO.Error → FileError
  | .noFileOrDirectory .. => .notFound
  | .inappropriateType _ code _ => if code = 20 then .notDirectory else .isDirectory
  | .permissionDenied _ code text => .other code.toNat text
  | .resourceExhausted _ code text => .other code.toNat text
  | e => .other 5 e.toString

/-- Read a file. -/
def readBytes (path : String) : IO (Except FileError (List UInt8)) := do
  try
    return .ok (← IO.FS.readBinFile path).toList
  catch e => return .error (FileError.ofSystem e)

/-- Read files, and see them as a function from paths. -/
def readAll (paths : List String) : IO Files := do
  let contents ← paths.mapM fun path => do return (path, ← readBytes path)
  return ⟨fun path => (contents.lookup path).getD (.error .notFound)⟩

end Chip8

/-- Run with the arguments of the process. -/
def main (arguments : List String) : IO UInt32 := do
  let files ← Chip8.readAll (Chip8.CommandLine.paths arguments)
  let result := Chip8.CommandLine.run files arguments
  IO.print result.output
  match result.ending with
  | .exit code => return UInt32.ofNat code
  | .abort cause =>
    IO.eprintln cause.message
    return 1
