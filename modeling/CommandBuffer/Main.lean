import CommandBuffer.CommandLine.Run

/-! # The program

The command line, with the file system of the machine as the file store.
-/

namespace CommandBuffer

/-- Whether an action ends without an error. -/
def succeeds {α : Type} (action : IO α) : IO Bool := do
  try
    let _ ← action
    return true
  catch _ => return false

/-- The path, or the working directory if it is empty. -/
def place (path : Storage.Path) : String := if path.text = "" then "." else path.text

/-- What stands at the path of a directory goes on to a dot; that of a file does not. -/
instance : Storage.FileStore IO where
  isDirectory path := succeeds (IO.FS.Handle.mk (place path ++ "/.") .read)
  isPresent path := succeeds (IO.FS.Handle.mk (place path) .read)
  makeDirectory path := succeeds (IO.FS.createDir path.text)
  writeFile path content := succeeds (IO.FS.writeFile path.text content)
  rename source target := succeeds (IO.FS.rename source.text target.text)
  removeFile path := succeeds (IO.FS.removeFile path.text)
  removeTree path := succeeds (IO.FS.removeDirAll path.text)
  freshName _ := do
    let bytes ← IO.getRandomBytes 8
    return Storage.World.stagingPrefix ++ "".intercalate (bytes.toList.map toString)

end CommandBuffer

def main (words : List String) : IO UInt32 := do
  let report : CommandBuffer.CommandLine.Report ←
    CommandBuffer.CommandLine.respond words (← IO.getEnv "RUST_LOG")
  IO.print report.output
  report.notices.forM IO.eprintln
  return report.status.toUInt32
