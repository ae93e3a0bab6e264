import Tablecast.Run

/-!
# The program

Runs on the files of the machine. Errors go to the standard error stream.
-/

namespace Tablecast

open Storage

def succeeds (act : IO Unit) : IO Bool := do
  try
    act
    pure true
  catch _ => pure false

def machine : Disk IO where
  read path := do
    try
      pure (some (← IO.FS.readFile path))
    catch _ => pure none
  isFile path := succeeds do let _ ← IO.FS.readBinFile path
  makeDirectories path := succeeds (IO.FS.createDirAll path)
  write path text := succeeds (IO.FS.writeFile path text)
  rename source target := succeeds (IO.FS.rename source target)
  remove path := do let _ ← succeeds (IO.FS.removeFile path)

def usageText : String := "Usage: ormgen [--config PATH] [--log-json] SCHEMA_PATH\n"

end Tablecast

open Tablecast in
def main (arguments : List String) : IO UInt32 := do
  let outcome ← run machine arguments
  match outcome with
  | .usage => IO.eprint usageText
  | .help => IO.print usageText
  | .version => IO.print versionText
  | .failed e => IO.eprintln e.message
  | .done => pure ()
  pure outcome.exitCode
