import LiveVisuals.Shader.Diagnostic
import LiveVisuals.Shader.Uniform
import LiveVisuals.Time.Timestamp

/-!
# Compile failures and their log

A shader that does not compile leaves a record: a line at the end of a log file, and a place
among the recent records that are kept at hand.

Main definitions:

- {lit}`CompileFailure`: what is known about a failed compile.
- {lit}`ErrorRecord`: a record of the log.
- {lit}`ErrorLog`: the recent records, newest last.

Main statements:

- {lit}`ErrorLog.length_recent_add_le`: no more records are kept at hand than the limit.
-/

namespace LiveVisuals

/-- What is known about a failed compile. -/
structure CompileFailure where
  shaderName : String
  path : String
  dialect : Dialect
  /-- The report shown to people. -/
  diagnostic : String
  diagnostics : List Diagnostic
deriving DecidableEq, Repr

namespace CompileFailure

/-- The failure that a compiler log tells of. A log without messages is its own report.
{lit}`place` is the path that reports give. -/
def ofLog (shaderName path place : String) (dialect : Dialect) (log : String)
    (lineMap : List (Option Nat)) : CompileFailure :=
  let ds := Diagnostic.ofLog log lineMap
  let report := Diagnostic.format place ds
  { shaderName := shaderName
    path := path
    dialect := dialect
    diagnostic := if report.isEmpty then log else report
    diagnostics := ds }

/-- The failure in words. -/
def message (f : CompileFailure) : String :=
  s!"Shader \"{f.shaderName}\" ({f.dialect.name}) failed to compile: {f.diagnostic}"

/-- A failure as JSON members. -/
def fields {α : Type} [Scalar α] (f : CompileFailure) : List (String × Json α) :=
  [ ("shaderName", .str f.shaderName)
  , ("path", .str f.path)
  , ("dialect", .str f.dialect.name)
  , ("diagnostic", .str f.diagnostic)
  , ("diagnostics", .arr (f.diagnostics.map (·.toJson))) ]

end CompileFailure

/-- A record of the log. -/
structure ErrorRecord where
  timestamp : Timestamp
  failure : CompileFailure
deriving DecidableEq, Repr

/-- A record as JSON. -/
def ErrorRecord.toJson {α : Type} [Scalar α] (r : ErrorRecord) : Json α :=
  .obj
    [ ("timestamp", .str r.timestamp.text)
    , ("name", .str r.failure.shaderName)
    , ("path", .str r.failure.path)
    , ("dialect", .str r.failure.dialect.name)
    , ("message", .str r.failure.diagnostic)
    , ("diagnostics", .arr (r.failure.diagnostics.map fun d =>
        .obj
          [ ("line", Diagnostic.lineJson d.line)
          , ("sourceLine", Diagnostic.lineJson d.sourceLine)
          , ("message", .str d.message) ])) ]

/-- Recent records, newest last. -/
structure ErrorLog where
  recent : List ErrorRecord

namespace ErrorLog

/-- How many records are kept at hand. -/
def limit : Nat := 50

/-- No records. -/
def empty : ErrorLog := ⟨[]⟩

/-- Add a record; the oldest makes room. -/
def add (l : ErrorLog) (r : ErrorRecord) : ErrorLog :=
  let all := l.recent ++ [r]
  ⟨all.drop (all.length - limit)⟩

/-- There are never more records than the limit after adding one. -/
theorem length_recent_add_le (l : ErrorLog) (r : ErrorRecord) :
    (l.add r).recent.length ≤ limit := by
  simp only [add, List.length_drop]
  omega

/-- The newest records. -/
def newest (l : ErrorLog) (n : Nat) : List ErrorRecord := l.recent.drop (l.recent.length - n)

end ErrorLog

end LiveVisuals
