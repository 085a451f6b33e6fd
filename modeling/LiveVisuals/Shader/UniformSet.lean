import LiveVisuals.Shader.Uniform

/-!
# Sets of uniforms

The uniforms of a compiled shader: an ordered collection of slots in which every name occurs
once. A name that is already there keeps its slot.

Main definitions:

- {lit}`UniformSet`: slots with pairwise different names.
- {lit}`UniformSet.add`, {lit}`UniformSet.addAll`: add slots whose names are new.
- {lit}`UniformSet.compile`: standard, then input, then audio uniforms.

Main statements:

- {lit}`UniformSet.mem_names_add`: after adding a slot its name is in the set.
-/

namespace LiveVisuals

/-- Uniform slots in order, each name once. -/
structure UniformSet (α : Type) where
  slots : List (UniformSlot α)
  distinct : (slots.map (·.name)).Nodup

namespace UniformSet

variable {α : Type}

/-- No uniforms. -/
def empty : UniformSet α := ⟨[], List.nodup_nil⟩

/-- Names in order. -/
def names (u : UniformSet α) : List String := u.slots.map (·.name)

/-- Whether a name is declared. -/
def has (u : UniformSet α) (name : String) : Bool := u.names.contains name

/-- The slot of a name. -/
def slot? (u : UniformSet α) (name : String) : Option (UniformSlot α) :=
  u.slots.find? (·.name == name)

/-- Add a slot at the end unless its name is taken. -/
def add (u : UniformSet α) (s : UniformSlot α) : UniformSet α :=
  if h : s.name ∈ u.slots.map (·.name) then u
  else
    { slots := u.slots ++ [s]
      distinct := by
        rw [List.map_append, List.nodup_append]
        refine ⟨u.distinct, by simp, ?_⟩
        intro a ha b hb hab
        simp only [List.map_cons, List.map_nil, List.mem_singleton] at hb
        subst hb
        exact h (hab ▸ ha) }

/-- Adding a slot declares its name and keeps the others. -/
theorem mem_names_add (u : UniformSet α) (s : UniformSlot α) (name : String) :
    name ∈ (u.add s).names ↔ name ∈ u.names ∨ name = s.name := by
  unfold add
  split
  · next h =>
    constructor
    · exact Or.inl
    · rintro (h' | rfl)
      · exact h'
      · exact h
  · simp [names, or_comm, eq_comm]

/-- A slot whose name is taken changes nothing. -/
theorem add_of_mem (u : UniformSet α) (s : UniformSlot α) (h : s.name ∈ u.names) :
    u.add s = u := by
  unfold add
  exact dif_pos h

/-- Add slots in order. -/
def addAll (u : UniformSet α) (ss : List (UniformSlot α)) : UniformSet α := ss.foldl add u

/-- The slot of a uniform that every shader gets. -/
def builtinSlot (origin : UniformOrigin) (b : BuiltinUniform) : UniformSlot α :=
  ⟨b.name, b.glslType, origin, none⟩

/-- The slot of a declared input. -/
def inputSlot (d : InputDeclaration α) : UniformSlot α :=
  ⟨d.name, d.type.glslType, .input, d.defaultValue⟩

/-- Slots of the standard uniforms. -/
def standardSlots : List (UniformSlot α) := standardUniforms.map (builtinSlot .standard)

/-- Slots of the audio uniforms. -/
def audioSlots : List (UniformSlot α) :=
  audioUniforms.map fun a => builtinSlot .audio a.toBuiltinUniform

/-- The uniforms of a shader with these inputs. Where names collide, standard uniforms come
before inputs and inputs before audio uniforms. -/
def compile (inputs : List (InputDeclaration α)) : UniformSet α :=
  ((empty.addAll standardSlots).addAll (inputs.map inputSlot)).addAll audioSlots

/-- What a renderer is told about a uniform: its name and type. -/
structure Declaration where
  name : String
  type : GlslType
deriving DecidableEq, Repr

/-- A declaration as JSON. -/
def Declaration.toJson (d : Declaration) : Json α :=
  .obj [("name", .str d.name), ("type", .str d.type.name)]

/-- The declarations of a set, in order. -/
def declarations (u : UniformSet α) : List Declaration :=
  u.slots.map fun s => ⟨s.name, s.glslType⟩

end UniformSet

end LiveVisuals
