import LiveVisuals.Files.Tree
import LiveVisuals.Shader.Uniform
import LiveVisuals.Text.Casing
import LiveVisuals.Text.Collation
import LiveVisuals.Text.Word

/-!
# The shader registry

Shaders are files below one directory, of either dialect by their extension. A scan lists
them: ISF shaders first, each dialect by name, and of shaders with one name only the first. A
name is looked up whatever its case, with or without its extension, and may say which dialect
it means.

Main definitions:

- {lit}`Descriptor`: a shader that a scan found.
- {lit}`Scan`: descriptors and signature of a tree.
- {lit}`ShaderQuery`: what a name asks for.
- {lit}`Registry`: the result of the last scan.
-/

namespace LiveVisuals

/-- A shader that a scan found. -/
structure Descriptor where
  name : String
  path : String
  /-- Path from the shader directory. -/
  relativePath : String
  dialect : Dialect
deriving DecidableEq, Repr

/-- A descriptor as JSON. -/
def Descriptor.toJson {α : Type} (d : Descriptor) : Json α :=
  .obj
    [ ("name", .str d.name)
    , ("path", .str d.path)
    , ("relativePath", .str d.relativePath)
    , ("dialect", .str d.dialect.name) ]

/-! ## File names -/

namespace FileName

/-- Split a file name before its last dot. A name that only starts with a dot has no
extension. -/
def split (name : List Char) : List Char × List Char :=
  let reversed := name.reverse
  let ext := reversed.takeWhile (· != '.')
  match reversed.dropWhile (· != '.') with
  | _ :: stem =>
      if stem.isEmpty ∨ name = ['.', '.'] then (name, [])
      else (stem.reverse, '.' :: ext.reverse)
  | [] => (name, [])

/-- The dialect of an extension, in any letter case. -/
def dialect? (ext : List Char) : Option Dialect :=
  match String.ofList (Text.lower ext) with
  | ".fs" => some .isf
  | ".txt" => some .glsl
  | ".glsl" => some .glsl
  | ".frag" => some .glsl
  | _ => none

end FileName

/-! ## Scanning -/

/-- A file that a walk found. -/
structure FoundFile where
  name : String
  /-- Names of the directories that lead to it, from the root. -/
  directory : List String
deriving DecidableEq, Repr

/-- What a walk gathers: files, and the latest modification time of anything it met. -/
structure Walk where
  files : List FoundFile
  latest : Nat

/-- The way to a file from the root. -/
def FoundFile.place (f : FoundFile) : List String := f.directory ++ [f.name]

namespace Walk

/-- Nothing met yet. -/
def start : Walk := ⟨[], 0⟩

/-- Note a modification time. -/
def meet (w : Walk) (time : Nat) : Walk := { w with latest := max w.latest time }

/-- Whether a name is hidden from walks. -/
def isHidden (name : String) : Bool := name.toList.head? == some '.'

mutual

/-- Walk a directory entry. -/
def visit (w : Walk) (directory : List String) (name : String) : Files.Node → Walk
  | .file _ time =>
      { files := w.files ++ [⟨name, directory⟩], latest := max w.latest time }
  | .directory entries time => visitAll (w.meet time) (directory ++ [name]) entries

/-- Walk directory entries in order; hidden ones are passed over. -/
def visitAll (w : Walk) (directory : List String) : List (String × Files.Node) → Walk
  | [] => w
  | (name, n) :: rest =>
      if isHidden name then visitAll w directory rest
      else visitAll (visit w directory name n) directory rest

end

end Walk

/-- What tells one state of a tree from another. -/
inductive Signature where
  | missing
  | tree (files latest : Nat)
deriving DecidableEq, Repr

/-- A time in microseconds as text: milliseconds, with those digits after the point that are
needed. -/
def Signature.timeText (time : Nat) : String :=
  let digits := [time / 100 % 10, time / 10 % 10, time % 10]
  let needed := (digits.reverse.dropWhile (· == 0)).reverse
  let whole := toString (time / 1000)
  if needed.isEmpty then whole else whole ++ "." ++ String.join (needed.map toString)

/-- A signature as text. -/
def Signature.text : Signature → String
  | missing => "missing"
  | tree files latest => s!"{files}:{timeText latest}"

/-- The result of a scan. -/
structure Scan where
  descriptors : List Descriptor
  signature : Signature

namespace Scan

/-- The descriptor of a file, if its extension is known. {lit}`root` is the path of the
shader directory. -/
def descriptor? (root : String) (f : FoundFile) : Option Descriptor :=
  let (stem, ext) := FileName.split f.name.toList
  (FileName.dialect? ext).map fun dialect =>
    let relative := Files.Path.text (f.directory ++ [f.name])
    { name := String.ofList stem
      path := root ++ "/" ++ relative
      relativePath := relative
      dialect := dialect }

/-- Order of descriptors of one dialect: by name whatever its case, then by path. -/
def compare (a b : Descriptor) : Ordering :=
  (Collation.compareStrings (Text.lowered a.name) (Text.lowered b.name)).then
    (Collation.compareStrings a.relativePath b.relativePath)

/-- Whether a descriptor may stand before another. -/
def inOrder (a b : Descriptor) : Bool := compare a b != .gt

/-- Keep the first descriptor of each name. -/
def firstOfEachName (ds : List Descriptor) : List Descriptor :=
  ds.foldl
    (fun kept d =>
      if kept.any fun k => Text.lowered k.name == Text.lowered d.name then kept
      else kept ++ [d])
    []

/-- The descriptors of one dialect, sorted, each name once. -/
def ofDialect (dialect : Dialect) (ds : List Descriptor) : List Descriptor :=
  firstOfEachName ((ds.filter (·.dialect == dialect)).mergeSort inOrder)

/-- Descriptors of all files, ISF first. -/
def arrange (ds : List Descriptor) : List Descriptor := ofDialect .isf ds ++ ofDialect .glsl ds

/-- Scan the shader directory, given what is found at its path. Directories are read in the
order of their names, by code point. A missing directory has no shaders. -/
def ofNode (root : String) : Except Files.Error Files.Node → Except Files.Error Scan
  | .error .notFound => .ok ⟨[], .missing⟩
  | .error e => .error e
  | .ok (.file ..) => .error .notDirectory
  | .ok (.directory entries time) =>
      let w := Walk.visitAll (Walk.start.meet time) [] entries
      let files := w.files.mergeSort fun f g => !g.place.lex f.place (· < ·)
      .ok ⟨arrange (files.filterMap (descriptor? root)), .tree files.length w.latest⟩

/-- A scan as JSON. -/
def toJson {α : Type} (s : Scan) : Json α :=
  .obj
    [ ("descriptors", .arr (s.descriptors.map (·.toJson)))
    , ("signature", .str s.signature.text) ]

end Scan

/-! ## Looking up -/

/-- What a name asks for: a lower-case key, and the dialect if it names one. -/
structure ShaderQuery where
  key : String
  dialect : Option Dialect
deriving DecidableEq, Repr

namespace ShaderQuery

/-- A dialect word in any letter case with a slash or colon after it, and what follows. -/
def dialectMark? (cs : List Char) : Option (Dialect × List Char) :=
  let after? (word : String) (d : Dialect) : Option (Dialect × List Char) :=
    let n := word.length
    if (cs.take n).map Char.toLower = word.toList then
      match cs.drop n with
      | c :: rest => if c = '/' ∨ c = ':' then some (d, rest) else none
      | [] => none
    else none
  (after? "isf" .isf).orElse fun _ => after? "glsl" .glsl

/-- What follows the last slash. -/
def afterLastSlash (cs : List Char) : List Char := (cs.reverse.takeWhile (· != '/')).reverse

/-- A file name without an extension that shaders have. -/
def withoutExtension (name : List Char) : List Char :=
  let (stem, ext) := FileName.split name
  if (FileName.dialect? ext).isSome then stem else name

/-- What a name asks for. -/
def ofName (name : String) : ShaderQuery :=
  let cs := (Text.trim name.toList).map fun c => if c.toNat = 0x5C then '/' else c
  let (dialect, rest) :=
    match dialectMark? cs with
    | some (d, rest) => (some d, rest)
    | none => (none, cs)
  ⟨String.ofList (Text.lower (withoutExtension (afterLastSlash rest))), dialect⟩

/-- Whether a descriptor is what was asked for. -/
def fits (q : ShaderQuery) (d : Descriptor) : Bool :=
  Text.lowered d.name == q.key && q.dialect.all (· == d.dialect)

end ShaderQuery

/-- The result of the last scan; there is no signature before the first. -/
structure Registry where
  /-- Path of the shader directory. -/
  root : String
  descriptors : List Descriptor
  signature : Option Signature

namespace Registry

/-- A registry before its first scan. -/
def new (root : String) : Registry := ⟨root, [], none⟩

/-- Take over a scan. -/
def install (r : Registry) (s : Scan) : Registry :=
  { r with descriptors := s.descriptors, signature := some s.signature }

/-- Descriptors, all or of one dialect. -/
def list (r : Registry) (dialect : Option Dialect) : List Descriptor :=
  r.descriptors.filter fun d => dialect.all (· == d.dialect)

/-- Number of shaders. -/
def size (r : Registry) : Nat := r.descriptors.length

/-- The shader of a name. -/
def get? (r : Registry) (name : String) : Option Descriptor :=
  r.descriptors.find? (ShaderQuery.ofName name).fits

/-- Whether a scan differs from the last one. -/
def changed (r : Registry) (s : Scan) : Bool := r.signature.any (· != s.signature)

/-- What is reported when there is no shader of a name. -/
def notFoundMessage (name : String) : String := s!"Shader \"{name}\" not found"

end Registry

end LiveVisuals
