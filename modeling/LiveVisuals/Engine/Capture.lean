import LiveVisuals.Binding.Preset
import LiveVisuals.Console

/-!
# First captures

Some time after a shader has become active a picture of it is asked for, unless there is one
already. Only one shader waits at a time.

Main definitions:

- {lit}`CaptureScheduler`: the shader that waits.
- {lit}`CaptureScheduler.schedule`, {lit}`CaptureScheduler.cancel`,
  {lit}`CaptureScheduler.expire`: it starts to wait, is given up, or its time has come.
- {lit}`CaptureScheduler.file`: where the picture of a shader is kept.
-/

namespace LiveVisuals

/-- The shader that waits for its first capture. -/
structure CaptureScheduler where
  pending : Option String
deriving DecidableEq, Repr

namespace CaptureScheduler

/-- Nobody waits. -/
def idle : CaptureScheduler := ⟨none⟩

/-- Let a shader wait, in place of the one before it. -/
def schedule (name : String) : CaptureScheduler := ⟨some name⟩

/-- The time has come: nobody waits any more, and the one who waited is handed out. -/
def expire (c : CaptureScheduler) : CaptureScheduler × Option String := (idle, c.pending)

/-- The file of a shader's picture. -/
def file (dir : Files.Path) (name : String) : Files.Path :=
  dir.join (FileName.safe name ++ ".png")

/-- What is reported when a picture is asked for. -/
def requestNotice (name : String) : Notice := .info s!"[capture] requesting {name}"

/-- What is reported when asking for a picture fails. -/
def failureNotice (name problem : String) : Notice := .failure s!"[capture] {name}: {problem}"

end CaptureScheduler

end LiveVisuals
