/-!
# Console notices

What the program tells its operator: a line of text at one of three levels.

Main definitions:

- {lit}`Notice`: a level and a text.
- {lit}`Notice.info`, {lit}`Notice.warning`, {lit}`Notice.failure`: notices of each level.
-/

namespace LiveVisuals

/-- How urgent a notice is. -/
inductive Level where
  | info
  | warning
  | failure
deriving DecidableEq, Repr

/-- A line on the console. -/
structure Notice where
  level : Level
  text : String
deriving DecidableEq, Repr

namespace Notice

/-- A notice about what happened as expected. -/
def info (text : String) : Notice := ⟨.info, text⟩

/-- A notice about something odd. -/
def warning (text : String) : Notice := ⟨.warning, text⟩

/-- A notice about a failure. -/
def failure (text : String) : Notice := ⟨.failure, text⟩

/-- Name of a level. -/
def label : Level → String
  | .info => "log"
  | .warning => "warn"
  | .failure => "error"

/-- A notice on one line. -/
def line (n : Notice) : String := label n.level ++ ": " ++ n.text

end Notice

end LiveVisuals
