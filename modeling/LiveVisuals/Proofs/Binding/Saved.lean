import LiveVisuals.Proofs.Binding.Settled
import LiveVisuals.Proofs.Json.RoundTrip
import LiveVisuals.Proofs.Schema.Accepted
import LiveVisuals.Rig.Disk

/-!
# Saved bindings are loaded

A file of saved bindings holds what was saved, its text is read as the data that was written, and
the data has the shape that is asked for when it is loaded. So bindings that are saved can be
loaded as they are, unless one of them has an empty name or a number that is not finite. No
message and no request body asks for such a binding.

Main definitions:

- {lit}`BindingSpec.Storable`: a binding that a file can hold.

Main results:

- Theorems {lit}`BindingSpec.storable_of_arguments` and {lit}`BindingSpec.storable_of_body`:
  bindings that messages and request bodies ask for can be held.
- Theorem {lit}`Preset.parse_text`: the content of a file is read as what was saved.
- Theorem {lit}`Files.Node.read_of_write`: a file holds what was written to it.
- Theorem {lit}`Disk.load_of_savePreset`: bindings that were saved are loaded.
-/

namespace LiveVisuals

variable {α : Type}

/-! ## The shape of saved bindings -/

namespace Checked

/-- A list is accepted as it is if each of its items is. -/
theorem all_map_eq_accepted {β γ : Type} (check : γ → Checked β) {f : β → γ} {bs : List β}
    (h : ∀ b ∈ bs, check (f b) = accepted b) (n : Nat) :
    all check n (bs.map f) = accepted bs := by
  induction bs generalizing n with
  | nil => rfl
  | cons b bs ih =>
      have hrest := ih (fun b hb => h b (List.mem_cons_of_mem _ hb)) (n + 1)
      rw [List.map_cons, all, h b List.mem_cons_self, hrest]
      rfl

end Checked

namespace Schema

/-- A string that is not empty is accepted as a text. -/
theorem text_of_ne [Scalar α] {s : String} (h : s ≠ "") :
    text (α := α) (some (.str s)) = .accepted s := by
  rw [text, satisfying_eq_accepted]
  exact ⟨rfl, by simp [Condition.nonempty, h]⟩

/-- A finite number is accepted as one. -/
theorem finiteNumber_of_isFinite {x : Float} (h : Scalar.isFinite x = true) :
    finiteNumber (some (.num x)) = .accepted x := by
  rw [finiteNumber, satisfying_eq_accepted]
  exact ⟨by simp [number, Scalar.isUndefined_of_isFinite h], by simp [Condition.finite, h]⟩

end Schema

namespace BindingSpec

/-- The numbers of a binding. -/
def numbers (b : BindingSpec α) : List α := [b.multiplier, b.smoothing, b.base, b.min, b.max]

/-- A binding that a file can hold: nothing is nameless, and all numbers are finite. -/
structure Storable (b : BindingSpec Float) : Prop where
  uniform : b.uniform ≠ ""
  feature : b.feature ≠ ""
  kind : b.kind ≠ ""
  finite : ∀ x ∈ b.numbers, Scalar.isFinite x = true

/-- A binding that a file can hold has the shape of a saved one. -/
theorem savedSchema_toJson {b : BindingSpec Float} (h : b.Storable) :
    savedSchema (some b.toJson) = .accepted b := by
  have hnumber {x : Float} (hx : x ∈ b.numbers) :
      Schema.finiteNumber (some (.num x)) = .accepted x :=
    Schema.finiteNumber_of_isFinite (h.finite x hx)
  have hmultiplier := hnumber (x := b.multiplier) (by simp [numbers])
  have hsmoothing := hnumber (x := b.smoothing) (by simp [numbers])
  have hbase := hnumber (x := b.base) (by simp [numbers])
  have hmin := hnumber (x := b.min) (by simp [numbers])
  have hmax := hnumber (x := b.max) (by simp [numbers])
  simp only [savedSchema, toJson, Schema.object, Schema.field, fields, Keyed.get?,
    String.reduceEq, if_true, if_false, Schema.text_of_ne h.uniform, Schema.text_of_ne h.feature,
    Schema.text_of_ne h.kind, hmultiplier, hsmoothing, hbase, hmin, hmax]
  rfl

/-- A binding can be read if its numbers can. -/
theorem legible_toJson [Scalar α] {b : BindingSpec α}
    (h : ∀ x ∈ b.numbers, (Json.num x).ReadsBack) : b.toJson.Legible := by
  refine .obj (by simp [fields, Keyed.keys]) fun f hf => ?_
  simp only [fields, List.mem_cons, List.not_mem_nil, or_false] at hf
  rcases hf with rfl | rfl | rfl | rfl | rfl | rfl | rfl | rfl
  · exact .str b.uniform
  · exact .str b.feature
  · exact .str b.kind
  all_goals exact .num (h _ (by simp [numbers]))

end BindingSpec

/-! ## Bindings that are asked for -/

/-- A message argument that counts as text is not empty. -/
theorem ne_of_argText? {v : Option (Json α)} {s : String} (h : argText? v = some s) : s ≠ "" := by
  unfold argText? at h
  split at h
  · split at h
    · cases h
    · next hs =>
      cases h
      rintro rfl
      exact hs rfl
  · cases h

namespace Schema

/-- An accepted text is not empty. -/
theorem ne_of_text [Scalar α] {v : Option (Json α)} {s : String} (h : text v = .accepted s) :
    s ≠ "" := by
  rw [text, satisfying_eq_accepted] at h
  have hnonempty := h.2 _ List.mem_cons_self
  rintro rfl
  cases hnonempty

/-- An accepted number is finite, or the default. -/
theorem isFinite_of_withDefault [Scalar α] {d x : α} {v : Option (Json α)}
    (hd : Scalar.isFinite d = true) (h : withDefault d finiteNumber v = .accepted x) :
    Scalar.isFinite x = true := by
  cases v with
  | none =>
      cases h
      exact hd
  | some v =>
      change finiteNumber (some v) = .accepted x at h
      exact isFinite_of_finiteNumber h

/-- An accepted kind is not nameless. -/
theorem ne_of_kind [Scalar α] {v : Option (Json α)} {kind : String}
    (h : withDefault Modulation.add.name (oneOf Modulation.names) v = .accepted kind) :
    kind ≠ "" := by
  cases v with
  | none =>
      cases h
      decide
  | some v =>
      change oneOf Modulation.names (some v) = .accepted kind at h
      unfold oneOf at h
      split at h
      · split at h
        · next hmem =>
          cases h
          rintro rfl
          exact absurd hmem (by decide)
        · cases h
      · exact absurd h (by unfold unexpected; split <;> simp [Checked.fail])

end Schema

namespace BindingSpec

/-- A binding that is in order can be held by a file if the one that was asked for names what it
is about and has finite numbers. -/
theorem storable_normalize {b : BindingSpec Float} (huniform : b.uniform ≠ "")
    (hfeature : b.feature ≠ "") (hkind : b.kind ≠ "")
    (hmultiplier : Scalar.isFinite b.multiplier = true) (hbase : Scalar.isFinite b.base = true)
    (hmin : Scalar.isFinite b.min = true) (hmax : Scalar.isFinite b.max = true) :
    b.normalize.Storable := by
  have hsmoothing := b.isFinite_smoothing_normalize
  have hlesser : Scalar.isFinite (Scalar.lesser b.min b.max) = true := by
    unfold Scalar.lesser
    repeat' split
    all_goals assumption
  have hgreater : Scalar.isFinite (Scalar.greater b.min b.max) = true := by
    unfold Scalar.greater
    repeat' split
    all_goals assumption
  refine ⟨huniform, hfeature, hkind, ?_⟩
  intro x hx
  simp only [numbers, List.mem_cons, List.not_mem_nil, or_false] at hx
  rcases hx with rfl | rfl | rfl | rfl | rfl
  · exact hmultiplier
  · exact hsmoothing
  · exact hbase
  · exact hlesser
  · exact hgreater

/-- A binding that a message asks for can be held by a file. -/
theorem storable_of_arguments {args : List (Json Float)} {spec : BindingSpec Float}
    (h : ofArguments? args = some spec) : spec.normalize.Storable := by
  have hnumber {v : Option (Json Float)} {d : Float} (hd : Scalar.isFinite d = true) :
      Scalar.isFinite ((argNumber? v).getD d) = true := by
    cases hv : argNumber? v with
    | none => exact hd
    | some x => exact isFinite_of_argNumber? hv
  unfold ofArguments? at h
  simp only [Option.bind_eq_bind, Option.bind_eq_some_iff, Option.some.injEq] at h
  obtain ⟨uniform, huniform, feature, hfeature, rfl⟩ := h
  refine storable_normalize (ne_of_argText? huniform) (ne_of_argText? hfeature) ?_
    (hnumber (by decide)) (hnumber (by decide)) (hnumber (by decide)) (hnumber (by decide))
  cases hkind : argText? args[2]? with
  | none =>
      change Modulation.add.name ≠ ""
      decide
  | some kind => exact ne_of_argText? hkind

/-- A binding that a request body asks for can be held by a file. -/
theorem storable_of_body {v : Option (Json Float)} {spec : BindingSpec Float}
    (h : bodySchema v = .accepted spec) : spec.normalize.Storable := by
  rw [bodySchema, Schema.object_eq_accepted] at h
  obtain ⟨fs, -, h⟩ := h
  simp only [Checked.seq_eq_accepted, Checked.map_eq_accepted, Schema.field,
    Checked.under_eq_accepted] at h
  obtain ⟨-, max, ⟨-, min, ⟨-, base, ⟨-, smoothing, ⟨-, multiplier, ⟨-, kind, ⟨-, feature,
    ⟨uniform, huniform, rfl⟩, hfeature, rfl⟩, hkind, rfl⟩, hmultiplier, rfl⟩, -, rfl⟩, hbase, rfl⟩,
    hmin, rfl⟩, hmax, rfl⟩ := h
  exact storable_normalize (Schema.ne_of_text huniform) (Schema.ne_of_text hfeature)
    (Schema.ne_of_kind hkind) (Schema.isFinite_of_withDefault (by decide) hmultiplier)
    (Schema.isFinite_of_withDefault (by decide) hbase)
    (Schema.isFinite_of_withDefault (by decide) hmin)
    (Schema.isFinite_of_withDefault (by decide) hmax)

end BindingSpec

/-! ## Files of saved bindings -/

namespace Preset

/-- The content of a file can be read if the numbers of the bindings can. -/
theorem legible_toJson [Scalar α] {specs : List (BindingSpec α)}
    (h : ∀ s ∈ specs, ∀ x ∈ s.numbers, (Json.num x).ReadsBack) (shader : String)
    (savedAt : Timestamp) : (toJson shader savedAt specs).Legible := by
  refine .obj (by simp [Keyed.keys]) fun f hf => ?_
  simp only [List.mem_cons, List.not_mem_nil, or_false] at hf
  rcases hf with rfl | rfl | rfl
  · exact .str shader
  · exact .str savedAt.text
  · refine .arr fun v hv => ?_
    obtain ⟨s, hs, rfl⟩ := List.mem_map.mp hv
    exact BindingSpec.legible_toJson (h s hs)

/-- Saved bindings have the shape that is asked for. -/
theorem schema_toJson {specs : List (BindingSpec Float)} (h : ∀ s ∈ specs, s.Storable)
    (shader : String) (savedAt : Timestamp) :
    schema (some (toJson shader savedAt specs)) = .accepted specs := by
  have hspecs : Schema.list BindingSpec.savedSchema
      (some (.arr (specs.map (·.toJson)))) = .accepted specs := by
    have haccepted : ∀ s ∈ specs, BindingSpec.savedSchema (some s.toJson) = .accepted s :=
      fun s hs => BindingSpec.savedSchema_toJson (h s hs)
    exact Checked.all_map_eq_accepted (fun v => BindingSpec.savedSchema (some v)) haccepted 0
  simp only [schema, toJson, Schema.object, Schema.field, Keyed.get?, String.reduceEq, if_true,
    if_false, hspecs]
  rfl

/-- The content of a file is read as what was saved. -/
theorem parse_text {specs : List (BindingSpec Float)} (h : ∀ s ∈ specs, s.Storable)
    (hnumbers : ∀ s ∈ specs, ∀ x ∈ s.numbers, (Json.num x).ReadsBack) (shader : String)
    (savedAt : Timestamp) : parse shader (text shader savedAt specs) = .ok specs := by
  have hread := Json.readString?_write (legible_toJson hnumbers shader savedAt) ⟨some 2⟩ 0
  rw [parse, text, Json.indented, hread]
  simp only [schema_toJson h]

end Preset

/-! ## Files -/

namespace Files.Node

/-- A file holds what was written to it. -/
theorem read_of_write {now : Nat} {content : String} {p : Path} {root root' : Node}
    (h : write now (fun _ => content) p root = .ok root') : root'.read p = .ok content := by
  induction p generalizing root root' with
  | nil =>
      cases root with
      | file old time =>
          cases h
          rfl
      | directory entries time => cases h
  | cons name rest ih =>
      cases root with
      | file old time => cases h
      | directory entries time =>
          rw [write] at h
          split at h
          · cases h
          · next hlength =>
            split at h
            · next n hn =>
              cases hwrite : write now (fun _ => content) rest n with
              | error e =>
                  rw [hwrite] at h
                  cases h
              | ok n' =>
                  rw [hwrite] at h
                  cases h
                  have hread := ih hwrite
                  simpa [read, find, hlength] using hread
            · split at h
              · next hlast =>
                cases h
                rw [List.isEmpty_iff.mp hlast]
                simp [read, find, hlength]
              · cases h

end Files.Node

namespace Disk

/-- A file holds what it was changed to. -/
theorem read_of_changeFile {d d' : Disk} {dir file : Files.Path} {content : String}
    (h : d.changeFile dir file (fun _ => content) = (d', .ok ())) :
    d'.root.read file = .ok content := by
  unfold changeFile at h
  split at h
  · next d₁ _ =>
    unfold apply at h
    split at h
    · next root hwrite =>
      cases h
      exact Files.Node.read_of_write hwrite
    · cases h
  · next hfailed => exact absurd h (hfailed d' ())

/-- A file holds the bindings that were saved in it. -/
theorem read_of_savePreset [Scalar α] {d d' : Disk} {dir : Files.Path} {shader path : String}
    {savedAt : Timestamp} {specs : List (BindingSpec α)}
    (h : d.savePreset dir shader savedAt specs = (d', .ok path)) :
    d'.root.read (Preset.fileFor dir shader) = .ok (Preset.text shader savedAt specs) := by
  simp only [savePreset] at h
  cases hchange : d.changeFile dir (Preset.fileFor dir shader)
      (fun _ => Preset.text shader savedAt specs) with
  | mk d₁ written =>
      rw [hchange] at h
      cases written with
      | error e => cases h
      | ok _ =>
          cases h
          exact read_of_changeFile hchange

/-- Bindings that were saved are loaded, from all files among which theirs is as it was. -/
theorem load_of_savePreset {d d' : Disk} {dir : Files.Path} {shader path : String}
    {savedAt : Timestamp} {specs : List (BindingSpec Float)} (h : ∀ s ∈ specs, s.Storable)
    (hnumbers : ∀ s ∈ specs, ∀ x ∈ s.numbers, (Json.num x).ReadsBack)
    (hsave : d.savePreset dir shader savedAt specs = (d', .ok path)) {root : Files.Node}
    (hroot : root.read (Preset.fileFor dir shader) = d'.root.read (Preset.fileFor dir shader)) :
    Preset.load dir shader root = .ok (some specs) := by
  rw [Preset.load, hroot, read_of_savePreset hsave]
  simp only [Preset.parse_text h hnumbers]
  rfl

end Disk

end LiveVisuals
