import LiveVisuals.Binding.Preset
import LiveVisuals.Binding.Table

/-!
# Edits of a binding table

A table is edited in three ways. Smoothed readings come and go with their entries, and otherwise
have no influence on which uniforms are bound and how.

Main definitions:

- {lit}`BindingTable.Edit`, {lit}`BindingTable.edit`: the three ways.
- {lit}`BindingTable.plain`: the entries of a table without their smoothed readings.

Main results:

- Theorem {lit}`BindingTable.plain_edit`: edits do not depend on smoothed readings.
- Theorems {lit}`BindingTable.mem_addAll`, {lit}`BindingTable.smoothed_addAll`: added entries are
  new, and smoothed from zero.
- Theorem {lit}`Preset.accepted_of_load`: loaded bindings are accepted by the schema.
- Theorem {lit}`Preset.load_of_unusable`: a file that cannot be used brings no bindings.
-/

namespace LiveVisuals

variable {α : Type}

namespace Keyed

variable {β γ : Type}

/-- Putting a value and changing all values can be exchanged. -/
theorem map_put (f : β → γ) (key : String) (value : β) (t : Keyed β) :
    (put key value t).map (fun e => (e.1, f e.2)) =
      put key (f value) (t.map fun e => (e.1, f e.2)) := by
  induction t with
  | nil => rfl
  | cons e t ih =>
      obtain ⟨k, v⟩ := e
      by_cases hk : k = key
      · simp [put, hk]
      · simpa [put, hk] using ih

/-- Removing a name and changing all values can be exchanged. -/
theorem map_erase (f : β → γ) (key : String) (t : Keyed β) :
    (erase key t).map (fun e => (e.1, f e.2)) = erase key (t.map fun e => (e.1, f e.2)) := by
  rw [erase, erase, List.filter_map]
  rfl

/-- Changing all values changes the one that is found. -/
theorem get?_map (f : β → γ) (key : String) (t : Keyed β) :
    get? key (t.map fun e => (e.1, f e.2)) = (get? key t).map f := by
  induction t with
  | nil => rfl
  | cons e t ih =>
      obtain ⟨k, v⟩ := e
      by_cases hk : k = key
      · simp [get?, hk]
      · simpa [get?, hk] using ih

/-- Changing all values leaves the names. -/
theorem keys_map (f : β → γ) (t : Keyed β) : keys (t.map fun e => (e.1, f e.2)) = keys t := by
  simp [keys]

/-- What is in a list after a put was there before, or was put. -/
theorem mem_put {key : String} {value : β} {t : Keyed β} {e : String × β}
    (h : e ∈ put key value t) : e = (key, value) ∨ e ∈ t := by
  induction t with
  | nil => exact .inl (List.mem_singleton.mp h)
  | cons d t ih =>
      rw [put] at h
      split at h
      · rcases List.mem_cons.mp h with h | h
        · exact .inl h
        · exact .inr (List.mem_cons_of_mem d h)
      · rcases List.mem_cons.mp h with h | h
        · exact .inr (h ▸ List.mem_cons_self)
        · exact (ih h).imp_right (List.mem_cons_of_mem d)

end Keyed

namespace BindingTable

/-- The ways in which a table is edited. -/
inductive Edit (α : Type) where
  | add (spec : BindingSpec α)
  | remove (uniform : String)
  | clear

/-- The entries without their smoothed readings. -/
def plain (t : BindingTable α) : Keyed (Binding α) := t.entries.map fun e => (e.1, e.2.binding)

/-- The entries without their smoothed readings tell all bindings. -/
theorem toList_eq (t : BindingTable α) : t.toList = Keyed.values t.plain := by
  simp [toList, plain, Keyed.values]

variable [Scalar α]

/-- A table after an edit. -/
def edit (t : BindingTable α) : Edit α → BindingTable α
  | .add spec => t.add spec .explicit
  | .remove uniform => t.remove uniform
  | .clear => .empty

/-- Advancing all entries changes smoothed readings only. -/
@[simp] theorem plain_advanceAll (t : BindingTable α) (f : Audio.Frame α) :
    (t.advanceAll f).plain = t.plain := by
  simp [plain, advanceAll, BindingEntry.advance]

/-- Edits do not depend on smoothed readings. -/
theorem plain_edit {t u : BindingTable α} (h : t.plain = u.plain) (x : Edit α) :
    (t.edit x).plain = (u.edit x).plain := by
  cases x with
  | add spec =>
      have hadd : ∀ t : BindingTable α, (t.add spec .explicit).plain =
          Keyed.put spec.uniform (BindingEntry.ofSpec spec .explicit).binding t.plain :=
        fun t => Keyed.map_put BindingEntry.binding _ _ _
      rw [edit, edit, hadd, hadd, h]
  | remove uniform =>
      have hremove : ∀ t : BindingTable α, (t.remove uniform).plain = Keyed.erase uniform t.plain :=
        fun t => Keyed.map_erase BindingEntry.binding _ _
      rw [edit, edit, hremove, hremove, h]
  | clear => rfl

/-- What is in a table after some bindings have been added was there before, or is new. -/
theorem mem_addAll {t : BindingTable α} {specs : List (BindingSpec α)} {origin : BindingOrigin}
    {e : String × BindingEntry α} (h : e ∈ (t.addAll specs origin).entries) :
    e ∈ t.entries ∨ ∃ spec ∈ specs, e = (spec.uniform, .ofSpec spec origin) := by
  induction specs generalizing t with
  | nil => exact .inl h
  | cons spec specs ih =>
      rcases ih h with h | ⟨later, hlater, rfl⟩
      · rcases Keyed.mem_put h with rfl | h
        · exact .inr ⟨spec, List.mem_cons_self, rfl⟩
        · exact .inl h
      · exact .inr ⟨later, List.mem_cons_of_mem spec hlater, rfl⟩

/-- Added entries are smoothed from zero. -/
theorem smoothed_addAll (specs : List (BindingSpec α)) (origin : BindingOrigin) :
    ∀ e ∈ (empty.addAll specs origin).entries, e.2.smoothed = 0.0 := by
  intro e he
  rcases mem_addAll he with he | ⟨spec, -, rfl⟩
  · cases he
  · rfl

end BindingTable

/-- A message argument that counts as a number is finite. -/
theorem isFinite_of_argNumber? [Scalar α] {v : Option (Json α)} {x : α}
    (h : argNumber? v = some x) : Scalar.isFinite x = true := by
  unfold argNumber? at h
  split at h
  · exact Scalar.isFinite_of_finite? h
  · split at h
    · cases h
    · obtain ⟨n, -, hn⟩ := Option.bind_eq_some_iff.mp h
      exact Scalar.isFinite_of_finite? hn
  · cases h

namespace Preset

variable [Scalar α]

/-- Bindings that a content is taken for are what the schema accepts. -/
theorem accepted_of_parse {shader content : String} {specs : List (BindingSpec α)}
    (h : parse shader content = .ok specs) :
    ∃ value, Json.readString? content = some value ∧ schema (some value) = .accepted specs := by
  unfold parse at h
  cases hjson : Json.readString? (α := α) content with
  | none => simp [hjson] at h
  | some value =>
      cases hschema : schema (α := α) (some value) with
      | accepted specs' => exact ⟨value, rfl, by simpa [hjson, hschema] using h⟩
      | refused is => simp [hjson, hschema] at h

/-- Bindings that are loaded are in a file, and the schema accepts what it holds. -/
theorem accepted_of_load {dir : Files.Path} {shader : String} {root : Files.Node}
    {specs : List (BindingSpec α)} (h : load dir shader root = .ok (some specs)) :
    ∃ content, root.read (fileFor dir shader) = .ok content ∧
      ∃ value, Json.readString? content = some value ∧ schema (some value) = .accepted specs := by
  unfold load at h
  cases hread : root.read (fileFor dir shader) with
  | error e => cases e <;> simp [hread] at h
  | ok content =>
      cases hparse : parse (α := α) shader content with
      | ok specs' =>
          obtain rfl : specs' = specs := by simpa [hread, hparse, Except.map] using h
          exact ⟨content, rfl, accepted_of_parse hparse⟩
      | error e => simp [hread, hparse, Except.map] at h

/-- A file that is missing, cannot be read, or does not hold bindings brings none. -/
theorem load_of_unusable {dir : Files.Path} {shader : String} {root : Files.Node}
    (h : ∀ content, root.read (fileFor dir shader) = .ok content →
      ∀ value : Json α, Json.readString? content = some value →
        ∀ specs, schema (some value) ≠ .accepted specs)
    (specs : List (BindingSpec α)) : load dir shader root ≠ .ok (some specs) := by
  intro hload
  obtain ⟨content, hread, value, hvalue, hschema⟩ := accepted_of_load hload
  exact h content hread value hvalue specs hschema

end Preset

end LiveVisuals
