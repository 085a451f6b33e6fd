import LiveVisuals.Engine.Basic

/-!
# Activating shaders

The way of an activation: the name is looked up, the source read and transpiled, the program
compiled, saved bindings loaded, and the shader installed. Activations are numbered as they
find their shader, and one that is no longer the newest ends without installing anything. A
failure ends an activation and leaves the session as it is.

Main definitions:

- {lit}`Engine.activate`: start an activation.
- {lit}`Engine.sourceRead`, {lit}`Engine.compiled`, {lit}`Engine.recorded`,
  {lit}`Engine.presetLoaded`: what it waited for has come.
- {lit}`RequestResult`: what a request reports.
- {lit}`Engine.scanned`: the shader directory was scanned.
-/

namespace LiveVisuals

variable {α : Type}

/-! ## Results of requests -/

/-- What a request for a shader reports. -/
inductive RequestResult (α : Type) where
  | loaded (name : String) (dialect : Dialect) (warnings : List String)
      (bindings : List (Binding α))
  | superseded (name : String)
  | notFound (name : String)
  | compileError (name message : String) (diagnostics : List Diagnostic)
  | error (name message : String)

namespace RequestResult

/-- The report of an activation that has ended. -/
def ofFinish (f : Finish α) : RequestResult α :=
  match f.outcome with
  | .installed a =>
      loaded a.descriptor.name a.transpiled.dialect a.transpiled.warnings f.bindings
  | .superseded => superseded f.requested
  | .notFound => notFound f.requested
  | .unreadable e => error f.requested e.code
  | .uncompilable c => compileError f.requested c.message c.diagnostics

/-- Whether the request was met, by its own shader or by a newer one. -/
def isSuccess : RequestResult α → Bool
  | loaded .. | superseded .. => true
  | _ => false

/-- A report as JSON. -/
def toJson [Scalar α] : RequestResult α → Json α
  | loaded name dialect warnings bindings =>
      .obj
        [ ("status", .str "loaded")
        , ("name", .str name)
        , ("dialect", .str dialect.name)
        , ("warnings", .strings warnings)
        , ("bindings", .arr (bindings.map (·.toJson))) ]
  | superseded name => .obj [("status", .str "superseded"), ("name", .str name)]
  | notFound name =>
      .obj
        [ ("status", .str "not_found")
        , ("name", .str name)
        , ("message", .str (Registry.notFoundMessage name)) ]
  | compileError name message diagnostics =>
      .obj
        [ ("status", .str "compile_error")
        , ("name", .str name)
        , ("message", .str message)
        , ("diagnostics", .arr (diagnostics.map (·.toJson))) ]
  | error name message =>
      .obj [("status", .str "error"), ("name", .str name), ("message", .str message)]

end RequestResult

namespace Engine

variable [Scalar α]

/-! ## Activations on their way -/

/-- The activation of a ticket. -/
def activation? (e : Engine α) (t : Ticket) : Option (Activation α) :=
  e.activations.find? (·.ticket == t)

/-- Let an activation wait for something else. -/
def moveTo (e : Engine α) (t : Ticket) (stage : Stage α) : Engine α :=
  { e with
    activations := e.activations.map fun a =>
      if a.ticket = t then { a with stage := stage } else a }

/-- What is reported when an activation has ended, depending on its purpose. -/
def endNotices (purpose : Purpose) (requested : String) (outcome : Outcome α) : List Notice :=
  match purpose, outcome with
  | .activation, _ => []
  | _, .notFound =>
      [.warning s!"[engine] {Registry.notFoundMessage requested}; keeping current shader"]
  | _, .unreadable e => [.failure s!"[engine] failed to load {requested}: {e.code}"]
  | .background, .installed a =>
      [.info s!"[engine] loaded {a.descriptor.name} on request"]
  | _, _ => []

/-- An activation ends. -/
def finish (e : Engine α) (a : Activation α) (outcome : Outcome α) : Engine α :=
  let e := { e with activations := e.activations.filter (·.ticket != a.ticket) }
  (e.noteAll (endNotices a.purpose a.requested outcome)).emit
    (.finished ⟨a.ticket, a.requested, outcome, e.session.bindings.toList⟩)

/-- Whether a newer activation has found its shader. -/
def isOutdated (e : Engine α) (q : Quest) : Bool := q.generation != e.generation

/-- Start an activation. One that finds no shader does not count as newer than others. -/
def activate (e : Engine α) (purpose : Purpose) (name : String) : Engine α :=
  let t := e.issued
  let begin (e : Engine α) (stage : Stage α) : Engine α :=
    { e with
      issued := e.issued + 1
      activations := e.activations ++ [⟨t, name, purpose, stage⟩] }
  match e.registry.get? name with
  | none => (begin e .lost).emit (.resume t)
  | some d =>
      let generation := e.generation + 1
      let e := { e with generation := generation }
      (begin e (.reading ⟨generation, d⟩)).emit (.readSource t d.path)

/-- Come back to an activation that found no shader. -/
def resumed (e : Engine α) (t : Ticket) : Engine α :=
  match e.activation? t with
  | some a =>
      match a.stage with
      | .lost => e.finish a .notFound
      | _ => e
  | none => e

/-- The request that asks for a compile. -/
def compileRequest (d : Descriptor) (t : Transpiled α) : CompileRequest where
  name := d.name
  dialect := t.dialect
  code := t.text
  uniforms := t.uniforms.declarations

/-- The source of an activation was read. -/
def sourceRead (e : Engine α) (t : Ticket) (content : Except Files.Error String) : Engine α :=
  match e.activation? t with
  | some a =>
      match a.stage, content with
      | .reading _, .error problem => e.finish a (.unreadable problem)
      | .reading q, .ok raw =>
          let transpiled := Transpiled.ofSource q.descriptor.dialect raw
          let warnings := transpiled.warnings.map fun w =>
            Notice.warning s!"[shader] {q.descriptor.name}: {w}"
          ((e.noteAll warnings).moveTo t (.compiling q transpiled)).emit
            (.compile t (compileRequest q.descriptor transpiled))
      | _, _ => e
  | none => e

/-- The failure that a compiler log tells of. -/
def failureOf (q : Quest) (t : Transpiled α) (log : String) : CompileFailure :=
  .ofLog q.descriptor.name q.descriptor.path q.descriptor.relativePath t.dialect log t.lineMap

/-- The compile of an activation has ended. -/
def compiled (e : Engine α) (now : Timestamp) (t : Ticket) (outcome : Except String Unit) :
    Engine α :=
  match e.activation? t with
  | some a =>
      match a.stage, outcome with
      | .compiling q transpiled, .ok _ =>
          if e.isOutdated q then e.finish a .superseded
          else
            (e.moveTo t (.restoring q transpiled)).emit (.loadPreset t q.descriptor.name)
      | .compiling q transpiled, .error log =>
          let failure := failureOf q transpiled log
          let record : ErrorRecord := ⟨now, failure⟩
          let e := e.note (.failure s!"[shader] {failure.message}")
          let e := { e with errors := e.errors.add record }
          (e.moveTo t (.recording q failure)).emit (.record t record)
      | _, _ => e
  | none => e

/-- The failure of an activation was written to the log, or could not be. -/
def recorded (e : Engine α) (t : Ticket) (written : Except Files.Error Unit) : Engine α :=
  match e.activation? t with
  | some a =>
      match a.stage with
      | .recording _ failure =>
          let e :=
            match written with
            | .ok _ => e
            | .error problem =>
                e.note (.failure s!"[shader] could not write error log: {problem.code}")
          e.finish a (.uncompilable failure)
      | _ => e
  | none => e

/-- Install the shader of an activation. -/
def install (e : Engine α) (a : Activation α) (active : ActiveShader α)
    (saved : Option (List (BindingSpec α))) : Engine α :=
  let d := active.descriptor
  let e := e.mapSession fun s => s.install active saved
  let count := e.session.bindings.size
  let e := e.emit (.scheduleCapture d.name)
  let e := e.note (.info s!"[engine] active: {d.dialect.name}/{d.name} ({count} bindings)")
  e.finish a (.installed active)

/-- Saved bindings of an activation were loaded; what cannot be read counts as nothing. -/
def presetLoaded (e : Engine α) (t : Ticket)
    (preset : Except PresetError (Option (List (BindingSpec α)))) : Engine α :=
  match e.activation? t with
  | some a =>
      match a.stage with
      | .restoring q transpiled =>
          let (e, saved) :=
            match preset with
            | .ok saved => (e, saved)
            | .error problem =>
                ( e.note (.warning
                    s!"[engine] ignoring binding preset for {q.descriptor.name}: {problem.message}")
                , none )
          if e.isOutdated q then e.finish a .superseded
          else e.install a ⟨q.descriptor, transpiled, q.generation⟩ saved
      | _ => e
  | none => e

/-! ## Scans -/

/-- Take over a scan of the shader directory. -/
def takeScan (e : Engine α) (s : Scan) : Engine α :=
  let e := { e with registry := e.registry.install s }
  e.note (.info s!"[engine] {e.registry.size} shaders in {e.registry.root}")

/-- The scan for a reload has ended: the active shader is activated anew. -/
def scanned (e : Engine α) (s : Except Files.Error Scan) : Engine α :=
  match s with
  | .error problem => e.note (.failure s!"[engine] {problem.code}")
  | .ok s =>
      let e := e.takeScan s
      match e.session.active with
      | some a => e.activate .reload s!"{a.descriptor.dialect.name}/{a.descriptor.name}"
      | none => e

end Engine

end LiveVisuals
