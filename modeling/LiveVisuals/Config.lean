import LiveVisuals.Schema.Checked

/-!
# Configuration

Settings come from environment variables, all checked at once. A blank variable counts as
unset.

Main definitions:

- {lit}`Config`: the settings.
- {lit}`Config.load`: settings of an environment, or everything that is wrong with it.
-/

namespace LiveVisuals

/-- The settings of the program. -/
structure Config (α : Type) where
  httpPort : α
  wsPort : α
  oscPort : α
  oscHost : String
  shaderDir : String
  captureDir : String
  bindingsDir : String
  errorLogPath : String
  tickRate : α
  reloadIntervalMs : α
  captureDelayMs : α
  compileTimeoutMs : α
  defaultShader : Option String

namespace Config

variable {α : Type} [Scalar α]

/-- A number written in any lenient form. -/
def numeral : Schema α α
  | some (.str s) =>
      match Numeral.read s.toList with
      | some n => .accepted (Scalar.ofNumeral n)
      | none => .fail "Expected number, received nan"
  | v => Schema.number v

/-- A port number. -/
def port : Schema α α := .satisfying numeral [.whole, .atLeast 1.0, .atMost 65535.0]

/-- A whole number of milliseconds, at least one. -/
def positiveMs : Schema α α := .satisfying numeral [.whole, .above 0.0]

/-- A number of ticks per second. -/
def tickRateSchema : Schema α α := .satisfying numeral [.whole, .atLeast 1.0, .atMost 240.0]

/-- The settings of an object of variables. -/
def schema : Schema α (Config α) :=
  Schema.object fun fs =>
    Config.mk <$> Schema.field fs "HTTP_PORT" (.withDefault 3333.0 port)
      <*> Schema.field fs "WS_PORT" (.withDefault 3334.0 port)
      <*> Schema.field fs "OSC_PORT" (.withDefault 9000.0 port)
      <*> Schema.field fs "OSC_HOST" (.withDefault "0.0.0.0" .text)
      <*> Schema.field fs "SHADER_DIR" (.withDefault "./shaders" .text)
      <*> Schema.field fs "CAPTURE_DIR" (.withDefault "./captures" .text)
      <*> Schema.field fs "BINDINGS_DIR" (.withDefault "./bindings" .text)
      <*> Schema.field fs "ERROR_LOG" (.withDefault "./logs/shader-errors.jsonl" .text)
      <*> Schema.field fs "TICK_RATE" (.withDefault 60.0 tickRateSchema)
      <*> Schema.field fs "RELOAD_INTERVAL_MS" (.withDefault 5000.0 positiveMs)
      <*> Schema.field fs "CAPTURE_DELAY_MS" (.withDefault 3000.0 positiveMs)
      <*> Schema.field fs "COMPILE_TIMEOUT_MS" (.withDefault 5000.0 positiveMs)
      <*> Schema.field fs "DEFAULT_SHADER" (.optional .text)

/-- The variables that are set. -/
def withoutBlanks (env : List (String × String)) : List (String × String) :=
  env.filter fun e => Text.trimmed e.2 != ""

/-- The settings of an environment, or what is wrong with it. -/
def load (env : List (String × String)) : Checked (Config α) :=
  schema (some (.obj ((withoutBlanks env).map fun e => (e.1, .str e.2))))

/-- A report of issues. -/
def report (issues : List Issue) : String :=
  "Invalid configuration:\n  " ++ "\n  ".intercalate (issues.map (·.line))

/-- Settings as JSON. -/
def toJson (c : Config α) : Json α :=
  .ofPresent
    [ ("httpPort", some (.num c.httpPort))
    , ("wsPort", some (.num c.wsPort))
    , ("oscPort", some (.num c.oscPort))
    , ("oscHost", some (.str c.oscHost))
    , ("shaderDir", some (.str c.shaderDir))
    , ("captureDir", some (.str c.captureDir))
    , ("bindingsDir", some (.str c.bindingsDir))
    , ("errorLogPath", some (.str c.errorLogPath))
    , ("tickRate", some (.num c.tickRate))
    , ("reloadIntervalMs", some (.num c.reloadIntervalMs))
    , ("captureDelayMs", some (.num c.captureDelayMs))
    , ("compileTimeoutMs", some (.num c.compileTimeoutMs))
    , ("defaultShader", c.defaultShader.map .str) ]

end Config

end LiveVisuals
