import LiveVisuals.Binding.Spec

/-!
# The binding table

The bindings in force, one per uniform. Each keeps its own smoothed reading, which starts from
zero and is advanced once per tick.

Main definitions:

- {lit}`BindingTable`: bindings with their smoothed readings, by uniform.
- {lit}`BindingTable.add`, {lit}`BindingTable.remove`: edit the table.
- {lit}`BindingTable.compute`, {lit}`BindingTable.computeAll`: advance and read outputs.

Main statements:

- {lit}`BindingTable.get?_add_self`, {lit}`BindingTable.get?_remove_self`: an added binding is
  found, and a removed one is gone.
-/

namespace LiveVisuals

/-- A binding with its smoothed reading. -/
structure BindingEntry (α : Type) where
  binding : Binding α
  smoothed : α

namespace BindingEntry

variable {α : Type} [Scalar α]

/-- An entry whose smoothed reading has moved toward the reading of a frame. -/
def advance (e : BindingEntry α) (f : Audio.Frame α) : BindingEntry α :=
  let reading := f.readNamed e.binding.feature
  { e with
    smoothed := e.smoothed + (reading - e.smoothed) * (1.0 - e.binding.smoothing) }

/-- The output of an entry. -/
def output (e : BindingEntry α) : α :=
  e.binding.toBindingSpec.modulate e.smoothed

/-- The entry of a new binding: normalized, and smoothed from zero. -/
def ofSpec (spec : BindingSpec α) (origin : BindingOrigin) : BindingEntry α :=
  ⟨{ spec.normalize with origin := origin }, 0.0⟩

end BindingEntry

/-- Bindings by uniform. -/
structure BindingTable (α : Type) where
  entries : Keyed (BindingEntry α)

namespace BindingTable

variable {α : Type}

/-- No bindings. -/
def empty : BindingTable α := ⟨[]⟩

/-- Whether a uniform is bound. -/
def has (t : BindingTable α) (uniform : String) : Bool := Keyed.has uniform t.entries

/-- Remove the binding of a uniform. -/
def remove (t : BindingTable α) (uniform : String) : BindingTable α :=
  ⟨Keyed.erase uniform t.entries⟩

/-- The binding of a uniform. -/
def get? (t : BindingTable α) (uniform : String) : Option (Binding α) :=
  (Keyed.get? uniform t.entries).map (·.binding)

/-- All bindings in order. -/
def toList (t : BindingTable α) : List (Binding α) := (Keyed.values t.entries).map (·.binding)

/-- Number of bindings. -/
def size (t : BindingTable α) : Nat := t.entries.length

@[simp] theorem toList_empty : (empty : BindingTable α).toList = [] := rfl

@[simp] theorem length_toList (t : BindingTable α) : t.toList.length = t.size := by
  simp [toList, size, Keyed.values]

/-- A removed binding is gone. -/
@[simp] theorem get?_remove_self (t : BindingTable α) (uniform : String) :
    (t.remove uniform).get? uniform = none := by
  simp [remove, get?]

variable [Scalar α]

/-- Create or replace the binding of a uniform. -/
def add (t : BindingTable α) (spec : BindingSpec α) (origin : BindingOrigin) :
    BindingTable α :=
  ⟨Keyed.put spec.uniform (.ofSpec spec origin) t.entries⟩

/-- Create or replace bindings in order. -/
def addAll (t : BindingTable α) (specs : List (BindingSpec α)) (origin : BindingOrigin) :
    BindingTable α :=
  specs.foldl (fun t s => t.add s origin) t

/-- A new binding is found under its uniform. -/
@[simp] theorem get?_add_self (t : BindingTable α) (spec : BindingSpec α)
    (origin : BindingOrigin) :
    (t.add spec origin).get? spec.uniform = some { spec.normalize with origin := origin } := by
  simp [add, get?, BindingEntry.ofSpec]

/-! ## Outputs -/

/-- Advance one binding. -/
def advanceOne (t : BindingTable α) (uniform : String) (f : Audio.Frame α) : BindingTable α :=
  match Keyed.get? uniform t.entries with
  | some e => ⟨Keyed.put uniform (e.advance f) t.entries⟩
  | none => t

/-- The output of a binding at its smoothed reading. -/
def output? (t : BindingTable α) (uniform : String) : Option α :=
  (Keyed.get? uniform t.entries).map (·.output)

/-- Advance one binding and read its output. -/
def compute (t : BindingTable α) (uniform : String) (f : Audio.Frame α) :
    BindingTable α × Option α :=
  let t := t.advanceOne uniform f
  (t, t.output? uniform)

/-- Advance every binding. -/
def advanceAll (t : BindingTable α) (f : Audio.Frame α) : BindingTable α :=
  ⟨t.entries.map fun (u, e) => (u, e.advance f)⟩

/-- The outputs of all bindings, in order. -/
def outputs (t : BindingTable α) : Keyed α :=
  t.entries.map fun (u, e) => (u, e.output)

/-- Advance every binding once and read all outputs. -/
def computeAll (t : BindingTable α) (f : Audio.Frame α) : BindingTable α × Keyed α :=
  let t := t.advanceAll f
  (t, t.outputs)

end BindingTable

end LiveVisuals
