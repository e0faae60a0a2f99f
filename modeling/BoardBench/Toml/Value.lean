namespace BoardBench.Toml

inductive Value where
  | string (text : String)
  | integer (n : Int)
  | float (text : String)
  | boolean (b : Bool)
  | time (text : String)
  | array (items : List Value)
  | table (entries : List (String × Value))
  deriving Repr, Inhabited

abbrev Entries := List (String × Value)

inductive Origin where
  | header
  | parent
  | dotted
  deriving DecidableEq, Repr

inductive Item where
  | value (v : Value)
  | table (origin : Origin) (entries : List (String × Item))
  | tables (all : List (List (String × Item)))
  deriving Inhabited

abbrev Table := List (String × Item)

mutual

def Item.toValue : Item → Value
  | .value v => v
  | .table _ entries => .table (tableEntries entries)
  | .tables all => .array (tableValues all)

def tableEntries : List (String × Item) → Entries
  | [] => []
  | (k, i) :: r => (k, i.toValue) :: tableEntries r

def tableValues : List (List (String × Item)) → List Value
  | [] => []
  | t :: r => .table (tableEntries t) :: tableValues r

end

def Table.put (t : Table) (k : String) (i : Item) : Table :=
  if t.any (·.1 == k) then t.map fun e => if e.1 == k then (k, i) else e
  else t ++ [(k, i)]

end BoardBench.Toml
