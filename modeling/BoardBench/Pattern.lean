import BoardBench.Regex.Match
import BoardBench.Text.Search

namespace BoardBench

inductive Pattern where
  | contains (text : String)
  | regex (r : Regex)
  | predicate (description : String) (accepts : String → Bool)

namespace Pattern

def accepts : Pattern → String → Bool
  | .contains text, line => Text.contains line text
  | .regex r, line => r.isMatch line
  | .predicate _ p, line => p line

def text : Pattern → String
  | .contains text => text
  | .regex r => r.source
  | .predicate description _ => description

end Pattern

end BoardBench
