import BoardBench.Configuration.Failure
import BoardBench.Toml.Decode
import BoardBench.Toml.Reader

namespace BoardBench.Toml

def document {α : Type} (origin : String) (read : Entries → Decoded α) (text : String) :
    Except ConfigFailure α :=
  match read? text with
  | none => .error (.parse origin none)
  | some entries =>
      match read entries with
      | .ok a => .ok a
      | .error .shape => .error (.parse origin none)
      | .error (.refused message) => .error (.parse origin (some message))

end BoardBench.Toml
