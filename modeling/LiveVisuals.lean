import LiveVisuals.Config
import LiveVisuals.Reference
import LiveVisuals.Rig.Operation
import LiveVisuals.Proofs.Engine.Newest
import LiveVisuals.Proofs.Engine.Delivery
import LiveVisuals.Proofs.Rig.Rejection
import LiveVisuals.Proofs.Rig.Agreement
import LiveVisuals.Proofs.Rig.CatchUp
import LiveVisuals.Proofs.Rig.Restored
import LiveVisuals.Proofs.Text.Token
import LiveVisuals.Proofs.Shader.LineMap
import LiveVisuals.Proofs.Shader.Declared
import LiveVisuals.Proofs.Shader.Presented
import LiveVisuals.Proofs.Engine.Residue
import LiveVisuals.Proofs.Engine.Site
import LiveVisuals.Proofs.Shader.Lookup
import LiveVisuals.Proofs.Engine.Origin
import LiveVisuals.Proofs.Engine.FileChange
import LiveVisuals.Proofs.Engine.Watcher
import LiveVisuals.Proofs.Engine.Standing
import LiveVisuals.Proofs.Audio.Cooldown
import LiveVisuals.Proofs.Audio.FreshStart
import LiveVisuals.Proofs.Audio.Range
import LiveVisuals.Proofs.Shader.Precedence
import LiveVisuals.Proofs.Engine.Pace
import LiveVisuals.Proofs.Engine.Finite
import LiveVisuals.Proofs.Shader.Addressed
import LiveVisuals.Proofs.Rig.Sidecar
import LiveVisuals.Proofs.Rig.Capture
import LiveVisuals.Proofs.Rig.Look
import LiveVisuals.Proofs.Rig.Verdict
import LiveVisuals.Proofs.Engine.Silence
import LiveVisuals.Proofs.Shader.Comment
import LiveVisuals.Proofs.Shader.Declarator
import LiveVisuals.Proofs.Shader.Hoisted
import LiveVisuals.Proofs.Shader.FixedPoint
import LiveVisuals.Proofs.Shader.Liberties
import LiveVisuals.Proofs.Audio.Staleness
import LiveVisuals.Proofs.Engine.Displaced
import LiveVisuals.Proofs.Binding.Range
import LiveVisuals.Proofs.Binding.Independence
import LiveVisuals.Proofs.Audio.Louder
import LiveVisuals.Proofs.Binding.Derived
import LiveVisuals.Proofs.Files.Listing
import LiveVisuals.Proofs.Files.Edited
import LiveVisuals.Proofs.Shader.Listed
import LiveVisuals.Proofs.Shader.Signature
import LiveVisuals.Proofs.Shader.CompilerLog
import LiveVisuals.Proofs.Engine.Knobs
import LiveVisuals.Proofs.Osc.Inbox
