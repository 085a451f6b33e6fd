import LiveVisuals.Service.Api

/-!
# Tools

What an assistant can do with the show. Each tool checks its arguments against a shape before
it does anything. Some answer at once; others wait for a shader, a file or a scan.

Main definitions:

- {lit}`Tool`: the tools, with their names, descriptions and parameters.
- {lit}`ToolCall`: a call with checked arguments, with {lit}`Tool.schema` the shapes.
- {lit}`ToolCall.start`: what an engine does with a call.
-/

namespace LiveVisuals

variable {α : Type}

/-- The tools. -/
inductive Tool where
  | shaderList
  | shaderLoad
  | shaderSource
  | shaderRescan
  | shaderErrors
  | audioBind
  | audioUnbind
  | audioClear
  | audioConfig
  | audioMonitor
  | audioSaveBindings
deriving DecidableEq, Repr

namespace Tool

/-- All tools, in the order in which they are listed. -/
def all : List Tool :=
  [ shaderList, shaderLoad, shaderSource, shaderRescan, shaderErrors
  , audioBind, audioUnbind, audioClear, audioConfig, audioMonitor, audioSaveBindings ]

/-- Name of a tool. -/
def name : Tool → String
  | shaderList => "shader_list"
  | shaderLoad => "shader_load"
  | shaderSource => "shader_source"
  | shaderRescan => "shader_rescan"
  | shaderErrors => "shader_errors"
  | audioBind => "audio_bind"
  | audioUnbind => "audio_unbind"
  | audioClear => "audio_clear"
  | audioConfig => "audio_config"
  | audioMonitor => "audio_monitor"
  | audioSaveBindings => "audio_save_bindings"

/-- The tool of a name. -/
def ofName? (s : String) : Option Tool := all.find? (·.name == s)

/-- What a tool does, in a sentence or two. -/
def description : Tool → String
  | shaderList =>
      "List shaders found in the shader directory. ISF shaders first, then raw GLSL, each " ++
        "sorted by name."
  | shaderLoad =>
      "Activate a shader by name. Prefix with \"isf/\" or \"glsl/\" to pick a dialect when " ++
        "both exist. On failure the current shader keeps running."
  | shaderSource =>
      "Show a shader's original source, or the transpiled text that is sent to the renderer."
  | shaderRescan => "Rescan the shader directory now instead of waiting for the next poll."
  | shaderErrors =>
      "Recent shader compile failures with diagnostics mapped back to source lines."
  | audioBind =>
      let features := ", ".intercalate Audio.Feature.names
      "Bind a shader input to an audio feature. Replaces any binding on the same uniform. " ++
        s!"Features: {features}."
  | audioUnbind => "Remove the audio binding on a uniform."
  | audioClear => "Remove every audio binding, explicit and automatic."
  | audioConfig =>
      "Adjust feature extraction: style bias, kick threshold and beat boost gain."
  | audioMonitor =>
      "Current audio feature snapshot, active bindings and the last uniform values sent to the " ++
        "renderer."
  | audioSaveBindings =>
      "Save the current bindings as the preset for the active shader. A saved preset replaces " ++
        "automatic bindings next time the shader loads."

/-- Names of the parameters of a tool. -/
def parameters : Tool → List String
  | shaderList => ["dialect", "search"]
  | shaderLoad => ["name"]
  | shaderSource => ["name", "transpiled"]
  | shaderErrors => ["limit"]
  | audioBind =>
      ["uniform", "feature", "kind", "multiplier", "smoothing", "base", "min", "max"]
  | audioUnbind => ["uniform"]
  | audioConfig => ["styleBias", "kickThreshold", "beatBoostGain"]
  | shaderRescan | audioClear | audioMonitor | audioSaveBindings => []

end Tool

/-! ## Calls -/

/-- A call with checked arguments. -/
inductive ToolCall (α : Type) where
  | list (dialect : Option Dialect) (search : Option String)
  | load (name : String)
  | source (name : String) (transpiled : Bool)
  | rescan
  | errors (limit : Nat)
  | bind (spec : BindingSpec α)
  | unbind (uniform : String)
  | clear
  | configure (u : ControlUpdate α)
  | monitor
  | save

namespace Tool

variable [Scalar α]

/-- The word of a dialect. -/
def dialectSchema : Schema α Dialect := fun v =>
  (Schema.oneOf ["isf", "glsl"] v).map fun s => (Dialect.ofName? s).getD .glsl

/-- How many records are shown: a whole number from 1 to 50. -/
def limitSchema : Schema α Nat := fun v =>
  (Schema.satisfying .number [.whole, .atLeast 1.0, .atMost 50.0] v).map fun (x : α) =>
    (Scalar.floor x).toNat

/-- The shape of a binding. -/
def bindingSchema (fs : List (String × Json α)) : Checked (BindingSpec α) :=
  BindingSpec.mk <$> Schema.field fs "uniform" (.string (α := α))
    <*> Schema.field fs "feature" (.string (α := α))
    <*> Schema.field fs "kind" (.withDefault Modulation.add.name (.oneOf Modulation.names))
    <*> Schema.field fs "multiplier" (.withDefault 1.0 .number)
    <*> Schema.field fs "smoothing" (.withDefault 0.5 BindingSpec.share)
    <*> Schema.field fs "base" (.withDefault 0.0 .number)
    <*> Schema.field fs "min" (.withDefault 0.0 .number)
    <*> Schema.field fs "max" (.withDefault 1.0 .number)

/-- The shape of knob positions. -/
def controlsSchema (fs : List (String × Json α)) : Checked (ControlUpdate α) :=
  let knob (conditions : List (Condition α)) : Schema α (Option α) :=
    .optional (.satisfying .number conditions)
  ControlUpdate.mk <$> Schema.field fs "styleBias" (knob [.atLeast (-1.0), .atMost 1.0])
    <*> Schema.field fs "kickThreshold" (knob [.atLeast 0.0, .atMost 1.0])
    <*> Schema.field fs "beatBoostGain" (knob [.atLeast 0.0])

/-- The shape of the arguments of a tool. -/
def schema (t : Tool) : Schema α (ToolCall α) :=
  Schema.object fun fs =>
    let name : Checked String := Schema.field fs "name" (.string (α := α))
    match t with
    | shaderList =>
        ToolCall.list <$> Schema.field fs "dialect" (.optional dialectSchema)
          <*> Schema.field fs "search" (.optional .string)
    | shaderLoad => ToolCall.load <$> name
    | shaderSource =>
        ToolCall.source <$> name
          <*> Schema.field fs "transpiled" (.withDefault false .boolean)
    | shaderRescan => .accepted .rescan
    | shaderErrors =>
        ToolCall.errors <$> Schema.field fs "limit" (.withDefault 10 limitSchema)
    | audioBind => ToolCall.bind <$> bindingSchema fs
    | audioUnbind => ToolCall.unbind <$> Schema.field fs "uniform" (.string (α := α))
    | audioClear => .accepted .clear
    | audioConfig => ToolCall.configure <$> controlsSchema fs
    | audioMonitor => .accepted .monitor
    | audioSaveBindings => .accepted .save

end Tool

/-! ## Answers -/

/-- What a tool answers, and whether it is about a failure. -/
structure ToolAnswer (α : Type) where
  isError : Bool
  body : Json α

namespace ToolAnswer

/-- An answer to a call that worked. -/
def ok (body : Json α) : ToolAnswer α := ⟨false, body⟩

/-- An answer to a call that failed. -/
def failure (message : String) : ToolAnswer α := ⟨true, .obj [("error", .str message)]⟩

/-- The answer to a request for a shader. -/
def ofResult [Scalar α] (r : RequestResult α) : ToolAnswer α := ⟨!r.isSuccess, r.toJson⟩

/-- The answer to a rescan. -/
def ofRescan [Scalar α] : Except Files.Error Nat → ToolAnswer α
  | .ok count => ok (.obj [("status", .str "rescanned"), ("count", .nat count)])
  | .error e => failure s!"Rescan failed: {e.code}"

/-- The answer to a request to save; {lit}`count` is the number of bindings. -/
def ofSave [Scalar α] (count : Nat) : Except Engine.SaveError String → ToolAnswer α
  | .ok file =>
      ok (.obj [("status", .str "saved"), ("file", .str file), ("count", .nat count)])
  | .error e => failure s!"Failed to save bindings: {e.message}"

/-- The answer to a request for the source of a shader, once it was read. -/
def ofSource [Scalar α] (d : Descriptor) (transpiled : Bool) :
    Except Files.Error String → ToolAnswer α
  | .error e => failure s!"Failed to read shader: {e.code}"
  | .ok raw =>
      if transpiled then
        let t : Transpiled α := .ofSource d.dialect raw
        ok (.obj
          [ ("name", .str d.name)
          , ("dialect", .str t.dialect.name)
          , ("warnings", .strings t.warnings)
          , ("inputs", .arr (t.inputs.map (·.toJson)))
          , ("source", .str t.text) ])
      else
        ok (.obj
          [ ("name", .str d.name)
          , ("dialect", .str d.dialect.name)
          , ("path", .str d.relativePath)
          , ("source", .str raw) ])

end ToolAnswer

/-- How a call goes on. -/
inductive ToolProgress (α : Type) where
  | reply (e : Engine α) (a : ToolAnswer α)
  /-- Answer when the request for a shader is over. -/
  | afterLoading (name : String)
  /-- Answer when a source has been read. -/
  | afterReading (d : Descriptor) (transpiled : Bool)
  | afterRescan
  | afterSaving

namespace ToolCall

variable [Scalar α]

/-- A shader in a listing. -/
def listingJson (d : Descriptor) : Json α :=
  .obj [("name", .str d.name), ("dialect", .str d.dialect.name), ("path", .str d.relativePath)]

/-- A listing of shaders whose names contain some text, whatever its case. -/
def listing (e : Engine α) (dialect : Option Dialect) (search : Option String) : Json α :=
  let found := (e.registry.list dialect).filter fun d =>
    search.all fun s => Text.includes (Text.lowered d.name) (Text.lowered s)
  .obj
    [ ("count", .nat found.length)
    , ("active", Json.orNull .str e.session.activeName?)
    , ("shaders", .arr (found.map listingJson)) ]

/-- The state of the music and what became of it, to three places. -/
def monitorJson (e : Engine α) : Json α :=
  let s := e.session
  .obj
    [ ("stale", .bool s.frame.stale)
    , ("features", .obj (s.frame.fields fun x => .num (Scalar.roundTo 1000.0 x)))
    , ("shader", Json.orNull .str s.activeName?)
    , ("bindings", s.bindingsJson)
    , ("values", s.lastValues.toJson) ]

/-- Add a binding. -/
def startBind (e : Engine α) (spec : BindingSpec α) : ToolProgress α :=
  let e := e.addBinding spec
  .reply e (.ok (.ofPresent
    [ ("status", some (.str "bound"))
    , ("binding", some (ApiRequest.bindingJson e spec.uniform))
    , ("warning", (unknownFeatureWarning? spec.feature).map .str)
    , ("totalBindings", some (.nat e.session.bindings.size)) ]))

/-- Remove a binding. -/
def startUnbind (e : Engine α) (uniform : String) : ToolProgress α :=
  let (e, found) := e.removeBinding uniform
  .reply e
    (if found then
      .ok (.obj
        [ ("status", .str "unbound")
        , ("uniform", .str uniform)
        , ("remainingBindings", .nat e.session.bindings.size) ])
    else .failure s!"No binding found for uniform \"{uniform}\"")

/-- What an engine does with a call. -/
def start (e : Engine α) : ToolCall α → ToolProgress α
  | list dialect search => .reply e (.ok (listing e dialect search))
  | load name => .afterLoading name
  | source name transpiled =>
      match e.registry.get? name with
      | some d => .afterReading d transpiled
      | none => .reply e (.failure (Registry.notFoundMessage name))
  | rescan => .afterRescan
  | errors limit =>
      let found := e.errors.newest limit
      .reply e (.ok (.obj
        [ ("count", .nat found.length)
        , ("errors", .arr (found.map (·.toJson))) ]))
  | bind spec => startBind e spec
  | unbind uniform => startUnbind e uniform
  | clear =>
      .reply e.clearBindings (.ok (.obj
        [("status", .str "cleared"), ("removed", .nat e.session.bindings.size)]))
  | configure u =>
      let e := e.setControls u
      .reply e (.ok (.obj
        [("status", .str "configured"), ("controls", e.session.controls.toJson)]))
  | monitor => .reply e (.ok (monitorJson e))
  | save => .afterSaving

end ToolCall

end LiveVisuals
