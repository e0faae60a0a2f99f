import BoardBench.Configuration.Reader
import BoardBench.Scenario.Script

namespace BoardBench

structure Files (m : Type → Type) where
  read : String → m (Except FileFailure String)
  isFile : String → m Bool
  list : String → m (Except FileFailure (List String))
  create : String → m (Except FileFailure Unit)

variable {m : Type → Type} [Monad m]

def Configuration.load (files : Files m) (path : String) : m (Except ConfigFailure Configuration) :=
  return match ← files.read path with
    | .error f => .error (.read path f)
    | .ok text => Configuration.ofText path text

def Scenario.load (files : Files m) (path : String) : m (Except ConfigFailure Scenario) :=
  return match ← files.read path with
    | .error f => .error (.read path f)
    | .ok text => Scenario.ofText path text

end BoardBench
