import LiveVisuals.Engine.Tick
import LiveVisuals.Text.Percent

/-!
# The web interface

Requests from the outside to look at the show and to steer it. A request to load a shader is
answered when the shader is there or has failed; everything else is answered at once.

Main definitions:

- {lit}`ApiRequest`, {lit}`ApiResponse`: what comes in and goes out.
- {lit}`Endpoint`: what a request addresses, with {lit}`Endpoint.ofRequest?`.
- {lit}`ApiRequest.answer?`: the answer of an engine.
-/

namespace LiveVisuals

variable {α : Type}

/-- What a request wants to do with its target. -/
inductive Verb where
  | get
  | post
  | delete
deriving DecidableEq, Repr

/-- The verb of a word. -/
def Verb.ofName? : String → Option Verb
  | "GET" => some get
  | "POST" => some post
  | "DELETE" => some delete
  | _ => none

/-- A request. The target is a path, perhaps with a query. -/
structure ApiRequest (α : Type) where
  verb : Verb
  target : String
  body : Option (Json α)

/-- A response. -/
structure ApiResponse (α : Type) where
  status : Nat
  body : Json α

/-- Who follows the show, and how it goes there. -/
structure Audience (α : Type) where
  clients : Nat
  /-- The last frame rate that a browser reported. -/
  fps : Option α

/-! ## Addresses -/

/-- What a request addresses. -/
inductive Endpoint where
  | state
  | shaders (dialect : Option Dialect)
  | loadShader
  | audio
  | bindings
  | addBinding
  | removeBinding (uniform : String)
  | errors
deriving DecidableEq, Repr

namespace Endpoint

/-- Split before the first occurrence of a character, which is dropped. -/
def cut (c : Char) (cs : List Char) : List Char × List Char :=
  (cs.takeWhile (· != c), (cs.dropWhile (· != c)).drop 1)

/-- A part of a query as text: plus signs are spaces. -/
def queryText (cs : List Char) : String :=
  let spaced := cs.map fun c => if c = '+' then ' ' else c
  (Text.percentDecode? spaced).getD (String.ofList spaced)

/-- The parameters of a query. -/
def parameters (query : String) : List (String × String) :=
  ((query.splitOn "&").filter fun p => !p.isEmpty).map fun p =>
    let (key, value) := cut '=' p.toList
    (queryText key, queryText value)

/-- The value of a parameter that is given exactly once. A name in brackets after the key
gives part of a compound value. -/
def parameter? (query key : String) : Option String :=
  let base (k : String) : String := String.ofList (cut '[' k.toList).1
  match (parameters query).filter fun (k, _) => base k == key with
  | [(k, value)] => if k = key then some value else none
  | _ => none

/-- The parts of a path between slashes. A slash at the end counts for nothing. -/
def segments (path : String) : List String :=
  match path.splitOn "/" with
  | "" :: parts => if parts.getLast? = some "" then parts.dropLast else parts
  | parts => parts

/-- A part of a path in lower case. -/
def plain (segment : String) : String := String.ofList (segment.toList.map Char.toLower)

/-- What a request addresses; fixed parts of paths may be in any letter case. -/
def ofRequest? (verb : Verb) (target : String) : Option Endpoint :=
  let (path, query) := cut '?' target.toList
  match segments (String.ofList path) with
  | [root, name] =>
      match verb, plain root, plain name with
      | .get, "api", "state" => some state
      | .get, "api", "shaders" =>
          some (shaders ((parameter? (String.ofList query) "dialect").bind Dialect.ofName?))
      | .post, "api", "shader" => some loadShader
      | .get, "api", "audio" => some audio
      | .get, "api", "bindings" => some bindings
      | .post, "api", "bindings" => some addBinding
      | .get, "api", "errors" => some errors
      | _, _, _ => none
  | [root, name, uniform] =>
      match verb, plain root, plain name with
      | .delete, "api", "bindings" =>
          if uniform.isEmpty then none
          else (Text.percentDecode? uniform.toList).map removeBinding
      | _, _, _ => none
  | _ => none

end Endpoint

/-! ## Answers -/

/-- How a request is answered. -/
inductive ApiAnswer (α : Type) where
  | reply (e : Engine α) (r : ApiResponse α)
  /-- Answer when the request for a shader is over. -/
  | afterLoading (name : String)

namespace ApiResponse

/-- A response to a request that was met. -/
def ok (body : Json α) : ApiResponse α := ⟨200, body⟩

/-- A response to a request that cannot be met. -/
def refusal (status : Nat) (error : Json α) : ApiResponse α := ⟨status, .obj [("error", error)]⟩

/-- The response to a request for a shader. -/
def ofResult [Scalar α] (r : RequestResult α) : ApiResponse α :=
  let status :=
    match r with
    | .notFound _ => 404
    | .compileError .. => 422
    | .error .. => 500
    | .loaded .. | .superseded _ => 200
  ⟨status, r.toJson⟩

end ApiResponse

/-- What is remarked about a feature that does not exist. -/
def unknownFeatureWarning? (feature : String) : Option String :=
  if Audio.isKnownFeature feature then none
  else some s!"unknown feature \"{feature}\", reading level"

namespace ApiRequest

variable [Scalar α]

/-- The shape of a request for a shader: its name. -/
def shaderBody : Schema α String :=
  Schema.object fun fs => Schema.field fs "name" (.text (α := α))

/-- The binding of a uniform as JSON. -/
def bindingJson (e : Engine α) (uniform : String) : Json α :=
  Json.orNull Binding.toJson (e.session.bindings.get? uniform)

/-- Add the binding that a body describes. -/
def answerAddBinding (e : Engine α) (body : Json α) : ApiAnswer α :=
  match BindingSpec.bodySchema (some body) with
  | .accepted spec =>
      let e := e.addBinding spec
      .reply e (.ok (.ofPresent
        [ ("binding", some (bindingJson e spec.uniform))
        , ("warning", (unknownFeatureWarning? spec.feature).map .str) ]))
  | .refused issues => .reply e (.refusal 400 (.strings (issues.map (·.line))))

/-- The answer of an engine at an address. A request without a body has an empty object for
one. -/
def answer (e : Engine α) (audience : Audience α) (body : Option (Json α)) :
    Endpoint → ApiAnswer α
  | .state =>
      .reply e (.ok (.obj (e.session.snapshot ++
        [ ("connectedClients", .nat audience.clients)
        , ("fps", Json.orNull .num audience.fps) ])))
  | .shaders dialect =>
      .reply e (.ok (.obj
        [ ("active", Json.orNull .str e.session.activeName?)
        , ("shaders", .arr ((e.registry.list dialect).map (·.toJson))) ]))
  | .loadShader =>
      match (shaderBody (α := α) (some (body.getD (.obj [])))).value? with
      | some name => .afterLoading name
      | none =>
          .reply e (.refusal 400 (.str "Body must contain \x7b name: string \x7d"))
  | .audio =>
      .reply e (.ok (.obj (e.session.frame.fields .num ++
        [("controls", e.session.controls.toJson)])))
  | .bindings => .reply e (.ok (.obj [("bindings", e.session.bindingsJson)]))
  | .addBinding => answerAddBinding e (body.getD (.obj []))
  | .removeBinding uniform =>
      let (e, found) := e.removeBinding uniform
      .reply e
        (if found then .ok (.obj [("removed", .str uniform)])
        else .refusal 404 (.str s!"No binding for {uniform}"))
  | .errors => .reply e (.ok (.obj [("errors", .arr (e.errors.recent.map (·.toJson)))]))

/-- The answer to a request, if it addresses anything. -/
def answer? (r : ApiRequest α) (e : Engine α) (audience : Audience α) :
    Option (ApiAnswer α) :=
  (Endpoint.ofRequest? r.verb r.target).map (answer e audience r.body)

end ApiRequest

end LiveVisuals
