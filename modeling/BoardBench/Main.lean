import BoardBench.CommandLine.Portless
import BoardBench.CommandLine.Run
import BoardBench.Text.Utf8

namespace BoardBench.Program

open CommandLine

def failureOf : IO.Error → FileFailure
  | .noFileOrDirectory .. => .missing
  | .noSuchThing .. => .missing
  | .inappropriateType _ code _ => if code = 20 then .notDirectory else .directory
  | .permissionDenied .. => .refused "Permission denied (os error 13)"
  | e => .refused (toString e)

def attempt {α : Type} (act : IO α) : IO (Except FileFailure α) := do
  match ← act.toBaseIO with
  | .ok a => return .ok a
  | .error e => return .error (failureOf e)

def read (path : String) : IO (Except FileFailure String) := do
  match ← attempt (IO.FS.readBinFile path) with
  | .error f => return .error f
  | .ok bytes =>
      match Text.Utf8.decode? bytes.toList with
      | some text => return .ok (String.ofList text)
      | none => return .error .notText

def isFile (path : String) : IO Bool := do
  match ← attempt (do (← IO.FS.realPath path).isDir) with
  | .ok directory => return !directory
  | .error _ => return false

def list (path : String) : IO (Except FileFailure (List String)) :=
  attempt do
    let entries ← (← IO.FS.realPath path).readDir
    return entries.toList.map fun e => e.fileName

def disk : Files IO where
  read := read
  isFile := isFile
  list := list
  create path := attempt (IO.FS.writeFile path "")

def rank : Level → Nat
  | .error => 1
  | .warn => 2
  | .info => 3
  | .debug => 4
  | .trace => 5

def shows : Verbosity → Record → Bool
  | .off, _ => false
  | .upTo level, r => rank r.level ≤ rank level

def logged (v : Verbosity) (r : Record) : Bool := shows v r || shows (.upTo .debug) r

def lineOf (r : Record) : String := "[" ++ r.level.name ++ "] " ++ r.message ++ "\n"

def toMillis (nanos : Nat) : UInt32 := UInt32.ofNat (min (nanos / 1000000) 4294967295)

def test (v : Verbosity) (c : Configuration) (scenarios : List Scenario) : IO Report := do
  let (report, nanos, records) := Portless.test c scenarios
  let terminal ← IO.getStdout
  terminal.putStr (String.join ((records.filter (shows v)).map lineOf))
  IO.FS.writeFile c.logPath (String.join ((records.filter (logged v)).map lineOf))
  IO.sleep (toMillis nanos)
  return report

end BoardBench.Program

def main (arguments : List String) : IO UInt32 := do
  let answer ← BoardBench.CommandLine.answer BoardBench.Program.disk BoardBench.Program.test arguments
  (← IO.getStdout).putStr answer.output
  (← IO.getStderr).putStr answer.errors
  return UInt32.ofNat answer.exit
