import Std.Data.TreeMap.Basic

/-!
# Tables of code points

Properties of characters are given by standards as long tables. Here such a table is a text:
code points are hexadecimal numbers, a run of them is its first and its last with a dash
between, and blanks or semicolons separate what belongs together.

Main definitions:

- {lit}`CodeRun`: a run of code points.
- {lit}`CodeTable`: values of runs, found by code point.
- {lit}`CodeTable.words`, {lit}`CodeTable.records`: the parts of a text.
-/

namespace LiveVisuals.Text

/-- A run of code points. -/
structure CodeRun where
  first : Nat
  last : Nat
deriving DecidableEq, Repr

/-- The value of a hexadecimal digit; letters are capitals. -/
def hexValue (c : Char) : Nat := if c.isDigit then c.toNat - 0x30 else c.toNat - 0x37

/-- The number that hexadecimal digits write. -/
def hexNumber (s : String) : Nat := s.foldl (fun n c => 16 * n + hexValue c) 0

namespace CodeRun

/-- The run that a text names. -/
def ofText (s : String) : CodeRun :=
  match s.splitOn "-" with
  | [a, b] => ⟨hexNumber a, hexNumber b⟩
  | _ => ⟨hexNumber s, hexNumber s⟩

/-- Number of code points. -/
def size (r : CodeRun) : Nat := r.last + 1 - r.first

end CodeRun

/-- Values of runs of code points that do not overlap. -/
structure CodeTable (β : Type) where
  /-- The end of a run and its value, by its first code point. -/
  runs : Std.TreeMap Nat (Nat × β)

namespace CodeTable

variable {β : Type}

/-- The table of some runs. -/
def ofList (rs : List (CodeRun × β)) : CodeTable β :=
  ⟨rs.foldl (fun m (r, b) => m.insert r.first (r.last, b)) ∅⟩

/-- How far into its run a code point lies, and the value of the run. -/
def find? (t : CodeTable β) (n : Nat) : Option (Nat × β) :=
  match t.runs.getEntryLE? n with
  | some (first, last, b) => if n ≤ last then some (n - first, b) else none
  | none => none

/-- Whether a code point lies in a run. -/
def holds (t : CodeTable β) (n : Nat) : Bool := (t.find? n).isSome

/-- The words of lines. -/
def words (lines : List String) : List String := lines.flatMap (·.splitOn " ")

/-- The records of lines, each as its words. -/
def records (lines : List String) : List (List String) :=
  ((" ".intercalate lines).splitOn "; ").map (·.splitOn " ")

/-- The runs of lines, without values. -/
def ofRuns (lines : List String) : CodeTable Unit :=
  ofList ((words lines).map fun w => (.ofText w, ()))

end CodeTable

end LiveVisuals.Text
