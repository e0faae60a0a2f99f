namespace BoardBench.Text.Utf8

structure Owed where
  more : Nat
  low : Nat
  high : Nat
  bits : Nat
  deriving DecidableEq, Repr

abbrev Progress := List (Option Char) × Option Owed

def first (b : UInt8) : Progress :=
  let n := b.toNat
  if n < 0x80 then ([some (Char.ofNat n)], none)
  else if 0xC2 ≤ n ∧ n ≤ 0xDF then ([], some ⟨1, 0x80, 0xBF, n - 0xC0⟩)
  else if n = 0xE0 then ([], some ⟨2, 0xA0, 0xBF, 0⟩)
  else if n = 0xED then ([], some ⟨2, 0x80, 0x9F, 0xD⟩)
  else if 0xE1 ≤ n ∧ n ≤ 0xEF then ([], some ⟨2, 0x80, 0xBF, n - 0xE0⟩)
  else if n = 0xF0 then ([], some ⟨3, 0x90, 0xBF, 0⟩)
  else if n = 0xF4 then ([], some ⟨3, 0x80, 0x8F, 4⟩)
  else if 0xF1 ≤ n ∧ n ≤ 0xF3 then ([], some ⟨3, 0x80, 0xBF, n - 0xF0⟩)
  else ([none], none)

def step : Option Owed → UInt8 → Progress
  | none, b => first b
  | some o, b =>
      let n := b.toNat
      if o.low ≤ n ∧ n ≤ o.high then
        let bits := o.bits * 64 + (n - 0x80)
        if o.more ≤ 1 then ([some (Char.ofNat bits)], none)
        else ([], some ⟨o.more - 1, 0x80, 0xBF, bits⟩)
      else (none :: (first b).1, (first b).2)

def scan (o : Option Owed) : List UInt8 → List (Option Char)
  | [] => if o.isSome then [none] else []
  | b :: bs => (step o b).1 ++ scan (step o b).2 bs

def replacement : Char := '\ufffd'

def decodeLossy (bytes : List UInt8) : List Char :=
  (scan none bytes).map (·.getD replacement)

def decode? (bytes : List UInt8) : Option (List Char) :=
  (scan none bytes).mapM id

def encode (cs : List Char) : List UInt8 :=
  cs.flatMap String.utf8EncodeChar

theorem scan_append_of_none {o : Option Owed} :
    ∀ (xs ys : List UInt8), (xs.foldl (fun s b => (step s b).2) o) = none →
      scan o (xs ++ ys) = scan o xs ++ scan none ys := by
  intro xs
  induction xs generalizing o with
  | nil => intro ys h; simp only [List.foldl_nil] at h; simp [h, scan]
  | cons b bs ih => intro ys h; simp [scan, ih ys h]

end BoardBench.Text.Utf8
