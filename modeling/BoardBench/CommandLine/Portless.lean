import BoardBench.Suite.Run

namespace BoardBench.CommandLine

structure Portless where
  slept : Nat := 0
  records : List Record := []
  deriving DecidableEq, Repr

namespace Portless

def noPort : LinkFailure := .serial "No such file or directory"

def environment : Environment Portless Empty where
  connect _ s := (.error noPort, s)
  setTimeout h := nomatch h
  duplicate h := nomatch h
  write h := nomatch h
  flush h := nomatch h
  read h := nomatch h
  sleep d s := { s with slept := s.slept + d.nanos }
  note r s := { s with records := r :: s.records }
  patience _ := 0
  now s := s.slept
  turns _ s := ([], s)
  naps _ _ := 0
  nap _ s := s

def opening (c : Configuration) (scenarios : List Scenario) : Record :=
  ⟨.info, "Running " ++ toString scenarios.length ++ " scenario(s) on " ++
    String.intercalate ", " c.boardNames⟩

def test (c : Configuration) (scenarios : List Scenario) : Report × Nat × List Record :=
  let s : Portless := environment.note (opening c scenarios) {}
  let (report, s) := (Suite.ofConfiguration c).run environment scenarios s
  (report, s.slept, s.records.reverse)

end Portless

end BoardBench.CommandLine
