import BoardBench.Link.Endpoint

namespace BoardBench

inductive IoKind where
  | notFound
  | permissionDenied
  | connectionReset
  | brokenPipe
  | alreadyExists
  | wouldBlock
  | invalidInput
  | invalidData
  | timedOut
  | writeZero
  | interrupted
  | unexpectedEof
  | other
  deriving DecidableEq, Repr

namespace IoKind

def all : List IoKind :=
  [.notFound, .permissionDenied, .connectionReset, .brokenPipe, .alreadyExists, .wouldBlock,
   .invalidInput, .invalidData, .timedOut, .writeZero, .interrupted, .unexpectedEof, .other]

def name : IoKind → String
  | .notFound => "NotFound"
  | .permissionDenied => "PermissionDenied"
  | .connectionReset => "ConnectionReset"
  | .brokenPipe => "BrokenPipe"
  | .alreadyExists => "AlreadyExists"
  | .wouldBlock => "WouldBlock"
  | .invalidInput => "InvalidInput"
  | .invalidData => "InvalidData"
  | .timedOut => "TimedOut"
  | .writeZero => "WriteZero"
  | .interrupted => "Interrupted"
  | .unexpectedEof => "UnexpectedEof"
  | .other => "Other"

def text : IoKind → String
  | .notFound => "entity not found"
  | .permissionDenied => "permission denied"
  | .connectionReset => "connection reset"
  | .brokenPipe => "broken pipe"
  | .alreadyExists => "entity already exists"
  | .wouldBlock => "operation would block"
  | .invalidInput => "invalid input parameter"
  | .invalidData => "invalid data"
  | .timedOut => "timed out"
  | .writeZero => "write zero"
  | .interrupted => "operation interrupted"
  | .unexpectedEof => "unexpected end of file"
  | .other => "other error"

def ofName? (name : String) : Option IoKind := all.find? (·.name == name)

end IoKind

structure IoFailure where
  kind : IoKind
  text : String := kind.text
  deriving DecidableEq, Repr

inductive LinkFailure where
  | serial (text : String)
  | io (failure : IoFailure)
  | timedOut
  | closed
  deriving DecidableEq, Repr

namespace LinkFailure

def ofIo (f : IoFailure) : LinkFailure :=
  match f.kind with
  | .timedOut => .timedOut
  | .wouldBlock => .timedOut
  | _ => .io f

def message : LinkFailure → String
  | .serial text => "serial port error: " ++ text
  | .io f => "io error: " ++ f.text
  | .timedOut => "timed out"
  | .closed => "transport is closed"

end LinkFailure

structure OpenFailure where
  endpoint : Endpoint
  attempts : Nat
  cause : Option LinkFailure
  deriving DecidableEq, Repr

def OpenFailure.message (f : OpenFailure) : String :=
  "could not open " ++ f.endpoint.text ++ " after " ++ toString f.attempts ++ " attempts"

end BoardBench
