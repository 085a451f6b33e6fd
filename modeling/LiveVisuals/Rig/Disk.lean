import LiveVisuals.Binding.Preset
import LiveVisuals.Files.Tree
import LiveVisuals.Json.Printer
import LiveVisuals.Shader.ErrorLog
import LiveVisuals.Shader.Registry
import LiveVisuals.Text.UnitOrder
import LiveVisuals.Time.DateText

/-!
# The disk of a rig

A file tree below a home directory, changed from outside and by the rig itself. Every change
from outside is one second later than the one before it, so that no two of them leave the same
modification times. Those are kept in microseconds, as finer parts of them are cut off.

Main definitions:

- {lit}`Disk`: a file tree with a clock of seconds.
- {lit}`Disk.change`: a change from outside.
- {lit}`Disk.scan`: scan a directory for shaders.
- {lit}`Disk.appendRecord`, {lit}`Disk.savePreset`: what a rig writes itself.
- {lit}`Disk.savePresetAt`: save bindings under a time that somebody wrote.
-/

namespace LiveVisuals

/-- A file tree below a home directory. -/
structure Disk where
  /-- The path of the home directory as text. -/
  home : String
  root : Files.Node
  /-- When the last change from outside happened, in seconds. -/
  second : Nat

namespace Disk

open Files (Node)

/-- Microseconds of a second. -/
def microseconds (second : Nat) : Nat := 1000000 * second

/-- Whole microseconds of a time in seconds; it is first cut off after nanoseconds. -/
def stampOf (seconds : Float) : Nat :=
  let whole := Scalar.floor seconds
  let nanoseconds := Scalar.floor ((seconds - Float.ofInt whole) * 1e9)
  (whole * 1000000 + nanoseconds / 1000).toNat

/-- The second at which everything that is there from the start was made. -/
def firstSecond : Nat := 1000

/-- A disk with nothing on it. -/
def empty (home : String) : Disk :=
  ⟨home, Node.emptyDirectory (microseconds firstSecond), firstSecond⟩

/-- The time of what the rig writes itself. -/
def now (d : Disk) : Nat := microseconds d.second

/-- Apply an operation that can fail; a failure changes nothing. -/
def apply (d : Disk) (f : Node → Except Files.Error Node) :
    Disk × Except Files.Error Unit :=
  match f d.root with
  | .ok root => ({ d with root := root }, .ok ())
  | .error e => (d, .error e)

/-- Put a file on the disk, as there from the start. -/
def withFile (d : Disk) (path : Files.Path) (content : String) : Disk :=
  (d.apply (·.writeThrough d.now content path)).1

/-- Put a directory on the disk, as there from the start. -/
def withDirectory (d : Disk) (path : Files.Path) : Disk :=
  (d.apply (·.makeDirectories d.now path)).1

/-- A change from outside: it takes the next second, and gives that second or the time wanted
to what it changes. A change that fails takes no time. -/
def change (d : Disk) (wanted : Option Nat) (f : (time : Nat) → Node → Except Files.Error Node) :
    Disk × Except Files.Error Unit :=
  let second := d.second + 1
  match f (wanted.getD (microseconds second)) d.root with
  | .ok root => ({ d with root := root, second := second }, .ok ())
  | .error e => (d, .error e)

/-- The path of a text that may start with the home directory. -/
def locate (d : Disk) (text : String) : Files.Path :=
  match Text.strip? d.home.toList text.toList with
  | some rest => .ofString (String.ofList rest)
  | none => .ofString text

/-- The text of a path, from the home directory on. -/
def pathText (d : Disk) (path : Files.Path) : String :=
  Files.Path.text (d.home :: path)

/-- Read a file. -/
def read (d : Disk) (path : Files.Path) : Except Files.Error String := d.root.read path

/-- Names of what a directory holds, sorted by 16-bit units. -/
def names (d : Disk) (path : Files.Path) : Except Files.Error (List String) :=
  match d.root.find path with
  | .ok (.directory entries _) => .ok ((Keyed.keys entries).mergeSort Text.unitLe)
  | .ok (.file ..) => .error .notDirectory
  | .error e => .error e

/-- Scan a directory for shaders. -/
def scan (d : Disk) (path : Files.Path) : Except Files.Error Scan :=
  Scan.ofNode (d.pathText path) (d.root.find path)

/-- Make a directory if it is missing. -/
def ensureDirectory (d : Disk) (dir : Files.Path) : Disk × Except Files.Error Unit :=
  d.apply (·.makeDirectories d.now dir)

/-- Change a file in a directory that is made first if it is missing. -/
def changeFile (d : Disk) (dir file : Files.Path) (f : String → String) :
    Disk × Except Files.Error Unit :=
  match d.ensureDirectory dir with
  | (d, .ok _) => d.apply (·.write d.now f file)
  | failed => failed

/-- Add a line to the log of compile failures. -/
def appendRecord (d : Disk) (log : Files.Path) (r : ErrorRecord) :
    Disk × Except Files.Error Unit :=
  let line := (r.toJson (α := Float)).compact ++ "\n"
  d.changeFile log.dropLast log fun content => content ++ line

/-- Save the bindings of a shader; the answer is the path of the file. -/
def savePreset {α : Type} [Scalar α] (d : Disk) (dir : Files.Path) (shader : String)
    (savedAt : Timestamp) (specs : List (BindingSpec α)) : Disk × Except Files.Error String :=
  let file := Preset.fileFor dir shader
  let (d, written) := d.changeFile dir file fun _ => Preset.text shader savedAt specs
  (d, written.map fun _ => d.pathText file)

/-- Why bindings are not saved under a time that somebody wrote. -/
inductive WrittenTimeError where
  | unreadable
  | file (e : Files.Error)
deriving DecidableEq, Repr

/-- Save the bindings of a shader under a time that somebody wrote. The directory is made
before the time is looked at. -/
def savePresetAt {α : Type} [Scalar α] (d : Disk) (dir : Files.Path) (shader time : String)
    (specs : List (BindingSpec α)) : Disk × Except WrittenTimeError String :=
  match Timestamp.read? time with
  | some t =>
      let (d, path) := d.savePreset dir shader t specs
      (d, path.mapError .file)
  | none =>
      let (d, made) := d.ensureDirectory dir
      (d, match made with
        | .ok _ => .error .unreadable
        | .error e => .error (.file e))

end Disk

end LiveVisuals
