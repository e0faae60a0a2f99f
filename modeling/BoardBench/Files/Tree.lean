import BoardBench.Files.Basic
import BoardBench.Text.Utf8

namespace BoardBench

namespace FileTree

inductive Entry where
  | file (bytes : List UInt8)
  | directory
  | sink
  deriving DecidableEq, Repr

inductive Origin where
  | workingDirectory
  | directoryAbove
  | root
  deriving DecidableEq, Repr

structure Place where
  origin : Origin
  names : List String
  deriving DecidableEq, Repr

def Place.child (p : Place) (name : String) : Place := { p with names := p.names ++ [name] }

def Place.parent (p : Place) : Place :=
  match p.origin, p.names with
  | .workingDirectory, [] => ⟨.directoryAbove, []⟩
  | o, names => ⟨o, names.dropLast⟩

def surroundings : List (Place × Entry) :=
  let directories := ["bin", "dev", "etc", "home", "lib", "opt", "proc", "root", "run", "sbin", "sys",
    "tmp", "usr", "var"]
  (⟨.root, ["dev", "null"]⟩, .sink) :: directories.map fun name => (⟨.root, [name]⟩, .directory)

end FileTree

structure FileTree where
  entries : List (FileTree.Place × FileTree.Entry) := FileTree.surroundings
  deriving DecidableEq, Repr

namespace FileTree

def find? (t : FileTree) (place : Place) : Option Entry :=
  if place.names.isEmpty then some .directory else t.entries.lookup place

def put (t : FileTree) (place : Place) (e : Entry) : FileTree :=
  ⟨(place, e) :: t.entries.filter fun x => x.1 != place⟩

theorem find?_put (t : FileTree) {place : Place} (h : place.names ≠ []) (e : Entry) (key : Place) :
    (t.put place e).find? key = if key = place then some e else t.find? key := by
  have lookup_filter : ∀ l : List (Place × Entry), key ≠ place →
      (l.filter fun x => x.1 != place).lookup key = l.lookup key := by
    intro l hk
    induction l with
    | nil => rfl
    | cons x xs ih =>
        obtain ⟨p, v⟩ := x
        by_cases hp : p = place
        · simp [hp, ih, List.lookup_cons, beq_false_of_ne hk]
        · simp [hp, ih, List.lookup_cons]
  by_cases hk : key = place
  · subst hk; simp [find?, put, h]
  · simp only [find?, put, List.lookup_cons, beq_false_of_ne hk, lookup_filter _ hk, if_neg hk]

def parts (path : String) : List String :=
  path.splitOn "/"

def nameLimit : Nat := 255

def pathLimit : Nat := 4095

def nameTooLong : FileFailure := .refused "File name too long (os error 36)"

def start (path : String) : Except FileFailure Place :=
  if path.toList.contains '\x00' then
    .error (.refused "file name contained an unexpected NUL byte")
  else if path.isEmpty then .error .missing
  else if pathLimit < path.utf8ByteSize then .error nameTooLong
  else .ok ⟨if path.startsWith "/" then .root else .workingDirectory, []⟩

def walk (t : FileTree) : Place → List String → Except FileFailure Place
  | place, [] => .ok place
  | place, part :: rest =>
      if t.find? place ≠ some .directory then .error .notDirectory
      else if part = "" ∨ part = "." then t.walk place rest
      else if part = ".." then t.walk place.parent rest
      else if nameLimit < part.utf8ByteSize then .error nameTooLong
      else if (t.find? (place.child part)).isSome then t.walk (place.child part) rest
      else .error .missing

def locate (t : FileTree) (path : String) : Except FileFailure Place :=
  match start path with
  | .error f => .error f
  | .ok place => t.walk place (parts path)

def read (t : FileTree) (path : String) : Except FileFailure String :=
  match t.locate path with
  | .error f => .error f
  | .ok place =>
      match t.find? place with
      | some (.file bytes) =>
          match Text.Utf8.decode? bytes with
          | some cs => .ok (String.ofList cs)
          | none => .error .notText
      | some .directory => .error .directory
      | some .sink => .ok ""
      | none => .error .missing

def isFile (t : FileTree) (path : String) : Bool :=
  match t.locate path with
  | .error _ => false
  | .ok place =>
      match t.find? place with
      | some (.file _) => true
      | _ => false

def contains (t : FileTree) (path : String) : Bool :=
  match t.locate path with
  | .error _ => false
  | .ok _ => true

def list (t : FileTree) (path : String) : Except FileFailure (List String) :=
  match t.locate path with
  | .error f => .error f
  | .ok place =>
      if t.find? place = some .directory then
        .ok (t.entries.filterMap fun e =>
          if e.1.origin = place.origin ∧ e.1.names.dropLast = place.names then e.1.names.getLast?
          else none)
      else .error .notDirectory

def createAt (t : FileTree) (path : String) : Except FileFailure FileTree :=
  let names := ((parts path).reverse.dropWhile (· = "")).reverse
  match start path with
  | .error f => .error f
  | .ok place =>
      match t.walk place names.dropLast with
      | .error f => .error f
      | .ok above =>
          let name := names.getLast?.getD "."
          if t.find? above ≠ some .directory then .error .notDirectory
          else if path.endsWith "/" ∨ name = "." ∨ name = ".." then .error .directory
          else if nameLimit < name.utf8ByteSize then .error nameTooLong
          else
            match t.find? (above.child name) with
            | some .directory => .error .directory
            | some .sink => .ok t
            | _ => .ok (t.put (above.child name) (.file []))

def add (t : FileTree) (path : String) (e : Entry) : FileTree :=
  let names := (parts path).filter fun part => part != "" && part != "."
  let inside := fun n => (⟨.workingDirectory, names.take n⟩ : Place)
  let above := (List.range names.length).map inside
  let t := above.foldl (fun t p => if (t.find? p).isNone then t.put p .directory else t) t
  t.put (inside names.length) e

def files : Files (StateM FileTree) where
  read path := return (← get).read path
  isFile path := return (← get).isFile path
  list path := return (← get).list path
  create path := do
    match (← get).createAt path with
    | .error f => return .error f
    | .ok t =>
        set t
        return .ok ()

end FileTree

end BoardBench
