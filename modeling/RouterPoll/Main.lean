import RouterPoll.Report.Startup
import RouterPoll.Settings.Document

/-!
# Command line

With `-f` and a file name, reads settings from the file, lets the environment have the last word, and prints what a poller with these settings starts with. What goes wrong is printed apart, and the exit code says so.
-/

namespace RouterPoll

namespace CommandLine

def usage : String := "usage: -f FILE"

/-- The variables that have a say in the settings. -/
def environment : IO Environment := do
  let entries ← Environment.names.filterMapM fun name => do
    return (← IO.getEnv name).map fun value => (name, value)
  return ⟨entries⟩

/-- The bytes of a file, if there is one. -/
def contents? (path : String) : IO (Option (List UInt8)) :=
  try
    return some (← IO.FS.readBinFile path).toList
  catch _ => return none

/-- Whether there can be a database where the settings want one; its file is made if it is not there. -/
def isOpenable : Option StorageSettings → IO Bool
  | some (.sqlite path) =>
    try
      let _ ← IO.FS.Handle.mk path .append
      return true
    catch _ => return false
  | _ => return true

def report (settings : Settings) : IO (Except StorageError (List String)) := do
  let openable ← isOpenable settings.storage
  return do
    let store ← Backend.openAs (fun _ => openable) settings.storage
    Startup.lines settings store

def complain (message : String) (code : UInt32) : IO UInt32 := do
  IO.eprintln message
  return code

def run (arguments : List String) : IO UInt32 := do
  let ["-f", path] := arguments | complain usage 2
  let environment ← environment
  match Settings.ofFile environment.defaultInterval (← contents? path) with
  | .error error => complain ("Error: " ++ error.message) 1
  | .ok settings =>
    let effective := { settings with poller := settings.poller.override environment }
    match ← report effective with
    | .error error => complain ("Error: " ++ error.message) 1
    | .ok lines =>
      lines.forM IO.println
      return 0

end CommandLine

end RouterPoll

def main (arguments : List String) : IO UInt32 := RouterPoll.CommandLine.run arguments
