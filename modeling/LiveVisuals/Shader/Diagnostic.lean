import LiveVisuals.Json.Basic
import LiveVisuals.Text.Word

/-!
# Compiler messages

A compiler log has one message a line. Lines of the form {lit}`ERROR: 0:12: text` name a line
of the compiled text, which is traced back to the shader file; other lines are kept as they
are.

Main definitions:

- {lit}`Diagnostic.ofLog`: the messages of a log.
- {lit}`Diagnostic.trace`: messages with their source lines.
- {lit}`Diagnostic.format`: messages as a report.
-/

namespace LiveVisuals

/-- How serious a message is. Lines in no known form are informative. -/
inductive Severity where
  | error
  | warning
  | info
deriving DecidableEq, Repr

/-- Name of a severity. -/
def Severity.name : Severity → String
  | .error => "error"
  | .warning => "warning"
  | .info => "info"

/-- A message of a compiler log. -/
structure LogEntry where
  severity : Severity
  /-- Line of the compiled text, counted from one. -/
  line : Option Nat
  message : String
  rawLine : String
deriving DecidableEq, Repr

/-- A message with the line of the shader file that it is about. -/
structure Diagnostic extends LogEntry where
  sourceLine : Option Nat
deriving DecidableEq, Repr

namespace LogEntry

open Text

/-- The severity word at the start of a line, in any letter case, with what follows. -/
def severityWord? (cs : List Char) : Option (Severity × List Char) :=
  let upTo (n : Nat) := (cs.take n).map Char.toUpper
  if upTo 5 = "ERROR".toList then some (.error, cs.drop 5)
  else if upTo 7 = "WARNING".toList then some (.warning, cs.drop 7)
  else none

/-- What follows a colon that may have blanks on both sides. -/
def afterColon? (cs : List Char) : Option (List Char) :=
  (strip? [':'] (skipBlanks cs)).map skipBlanks

/-- A run of at least one digit, with what follows. -/
def digits? (cs : List Char) : Option (List Char × List Char) :=
  match Decimal.digitRun cs with
  | ([], _) => none
  | found => some found

/-- A line that names its severity, a string number and a line number. -/
def located? (rawLine : List Char) : Option LogEntry := do
  let (severity, rest) ← severityWord? rawLine
  let rest ← afterColon? rest
  let (_, rest) ← digits? rest
  let rest ← afterColon? rest
  let (number, rest) ← digits? rest
  let message ← afterColon? rest
  if message.any isLineEnd then none
  else
    some
      { severity := severity
        line := some (Decimal.natOfDigits number)
        message := String.ofList (trim message)
        rawLine := String.ofList rawLine }

/-- The message of a line. -/
def ofLine (rawLine : List Char) : LogEntry :=
  (located? rawLine).getD ⟨.info, none, String.ofList rawLine, String.ofList rawLine⟩

/-- The messages of a log; blank lines say nothing. -/
def ofLog (log : String) : List LogEntry :=
  (((lines log.toList).map trim).filter fun l => !l.isEmpty).map ofLine

end LogEntry

namespace Diagnostic

/-- The source line of a line of the compiled text. -/
def sourceLineOf (lineMap : List (Option Nat)) : Option Nat → Option Nat
  | some (n + 1) => (lineMap[n]?).join
  | _ => none

/-- Trace messages back to the shader file. -/
def trace (entries : List LogEntry) (lineMap : List (Option Nat)) : List Diagnostic :=
  entries.map fun e => { e with sourceLine := sourceLineOf lineMap e.line }

/-- The messages of a log, traced back. -/
def ofLog (log : String) (lineMap : List (Option Nat)) : List Diagnostic :=
  trace (LogEntry.ofLog log) lineMap

/-- A line number as it is written. -/
def lineText (n : Nat) : String := Scalar.text (Scalar.ofInt n : Float)

/-- Where a message belongs: a line of the shader file, a line that was injected, or the file. -/
def place (path : String) (d : Diagnostic) : String :=
  match d.sourceLine, d.line with
  | some n, _ => s!"{path}:{lineText n}"
  | none, some n => s!"<generated>:{lineText n}"
  | none, none => path

/-- Messages as a report, one a line. -/
def format (path : String) (ds : List Diagnostic) : String :=
  Text.joinLines (ds.map fun d => s!"{place path d}: {d.message}")

/-- A number or null. -/
def lineJson {α : Type} [Scalar α] : Option Nat → Json α := Json.orNull Json.nat

/-- A message as JSON. -/
def toJson {α : Type} [Scalar α] (d : Diagnostic) : Json α :=
  .obj
    [ ("severity", .str d.severity.name)
    , ("line", lineJson d.line)
    , ("message", .str d.message)
    , ("rawLine", .str d.rawLine)
    , ("sourceLine", lineJson d.sourceLine) ]

end Diagnostic

end LiveVisuals
