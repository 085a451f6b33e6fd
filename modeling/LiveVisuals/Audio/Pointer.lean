import LiveVisuals.Audio.Frame

/-!
# Synthetic pointer

A figure-eight path for shaders that read the pointer. Energy widens it, bass and mid stretch
it, and the beat nudges it along.
-/

namespace LiveVisuals.Audio

variable {α : Type} [Scalar α]

/-- Pointer at an audio time, both coordinates from 0.05 to 0.95. -/
def syntheticPointer (time : α) (f : Frame α) : α × α :=
  let t := time * 0.3 + f.beatPhase * 0.4
  let radius := 0.12 + f.energySlow * 0.18
  let rx := radius + f.bass * 0.12
  let ry := radius + f.mid * 0.08
  ( Scalar.clamp (0.5 + Scalar.sin t * rx) 0.05 0.95,
    Scalar.clamp (0.5 + Scalar.sin (2.0 * t) * ry) 0.05 0.95 )

end LiveVisuals.Audio
