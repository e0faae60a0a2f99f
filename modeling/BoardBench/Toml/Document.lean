import BoardBench.Toml.Value

namespace BoardBench.Toml

abbrev Path := List String

inductive Statement where
  | assign (path : Path) (key : String) (v : Value)
  | openTable (path : Path) (key : String)
  | openElement (path : Path) (key : String)
  deriving Repr

inductive Walker where
  | header
  | dotted
  deriving DecidableEq, Repr

def Walker.makes : Walker → Origin
  | .header => .parent
  | .dotted => .dotted

def Walker.enters : Walker → Origin → Bool
  | .header, _ => true
  | .dotted, o => o != .header

def changeLast {α : Type} (f : α → Option α) : List α → Option (List α)
  | [] => none
  | [a] => (f a).map ([·])
  | a :: r => (changeLast f r).map (a :: ·)

def Table.within (w : Walker) (f : Origin → Table → Option Table) :
    Path → Origin → Table → Option Table
  | [], o, t => f o t
  | k :: path, _, t =>
      match t.lookup k with
      | none => do return t.put k (.table w.makes (← within w f path w.makes []))
      | some (.table o sub) =>
          if w.enters o then do return t.put k (.table o (← within w f path o sub)) else none
      | some (.tables all) =>
          do return t.put k (.tables (← changeLast (within w f path .header) all))
      | some (.value _) => none

def Table.assign (path : Path) (key : String) (v : Value) (t : Table) : Option Table :=
  t.within .dotted (fun o sub =>
    if (path.isEmpty || o == .dotted) && (sub.lookup key).isNone then some (sub.put key (.value v))
    else none) path .header

def Table.openTable (path : Path) (key : String) (t : Table) : Option Table :=
  t.within .header (fun _ sub =>
    match sub.lookup key with
    | none => some (sub ++ [(key, .table .header [])])
    | some (.table .parent inner) =>
        some (sub.filter (·.1 != key) ++ [(key, .table .header inner)])
    | some _ => none) path .header

def Table.openElement (path : Path) (key : String) (t : Table) : Option Table :=
  t.within .header (fun _ sub =>
    match sub.lookup key with
    | none => some (sub.put key (.tables [[]]))
    | some (.tables all) => some (sub.put key (.tables (all ++ [[]])))
    | some _ => none) path .header

structure Document where
  root : Table := []
  current : Path := []

def Document.add (d : Document) : Statement → Option Document
  | .assign path key v => do
      return { d with root := ← d.root.within .header (fun _ t => t.assign path key v) d.current .header }
  | .openTable path key => do
      return ⟨← d.root.openTable path key, path ++ [key]⟩
  | .openElement path key => do
      return ⟨← d.root.openElement path key, path ++ [key]⟩

def Document.build (statements : List Statement) : Option Entries := do
  let d ← statements.foldlM Document.add {}
  return tableEntries d.root

def inlineTable (assignments : List (Path × String × Value)) : Option Value := do
  let t ← assignments.foldlM (fun t (path, key, v) => Table.assign path key v t) ([] : Table)
  return .table (tableEntries t)

end BoardBench.Toml
