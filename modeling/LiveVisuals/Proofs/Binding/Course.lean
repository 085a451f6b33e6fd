import Mathlib.Data.List.Induction
import LiveVisuals.Proofs.Binding.Edit

/-!
# The course of a binding table

All that can happen to a table is that bindings are added, removed and cleared, and that one or all
of them are advanced by a frame. What a uniform is bound to, and how far its reading has been
smoothed, follows from what happened since it was last added: it is the new binding, advanced by
the frames that it has been fed.

Main definitions:

- {lit}`BindingTable.Act`, {lit}`BindingTable.act`, {lit}`BindingTable.run`: the course of a table.
- {lit}`BindingTable.Act.adds`, {lit}`BindingTable.Act.unbinds`: acts that bind or free a uniform.
- {lit}`BindingTable.Act.frame?`: the frame that an act feeds to a binding.
- {lit}`BindingTable.IsBound`: a uniform has been added, and has not become free since.
- {lit}`BindingTable.BoundSince`: a uniform was last added then, and is bound still.

Main results:

- Theorem {lit}`BindingTable.get?_computeAll`: outputs are the same one by one and all together.
- Theorems {lit}`BindingTable.get?_act`, {lit}`BindingTable.Act.entryAfter_eq_some_iff`: what an
  act does to the entry of a uniform.
- Theorem {lit}`BindingTable.get?_run_eq_some_iff`: entries are new ones advanced by what they have
  been fed.
- Theorem {lit}`BindingTable.mem_keys_run`: entries stand under the uniforms that are bound.
-/

namespace LiveVisuals

/-- A list that ends in an item is split at that item, or before it. -/
theorem append_singleton_eq_append_cons {β : Type} {xs ys zs : List β} {x y : β} :
    xs ++ [x] = ys ++ y :: zs ↔
      xs = ys ∧ x = y ∧ zs = [] ∨ ∃ ws, zs = ws ++ [x] ∧ xs = ys ++ y :: ws := by
  constructor
  · intro h
    rcases List.eq_nil_or_concat zs with rfl | ⟨ws, z, rfl⟩
    · obtain ⟨hxs, hx⟩ := List.append_inj' h rfl
      exact .inl ⟨hxs, List.singleton_inj.mp hx, rfl⟩
    · rw [List.concat_eq_append, ← List.cons_append, ← List.append_assoc] at h
      obtain ⟨hxs, hx⟩ := List.append_inj' h rfl
      rw [List.singleton_inj.mp hx, List.concat_eq_append]
      exact .inr ⟨ws, rfl, hxs⟩
  · rintro (⟨rfl, rfl, rfl⟩ | ⟨ws, rfl, rfl⟩) <;> simp

namespace BindingTable

variable {α : Type}

/-- What can happen to a table. -/
inductive Act (α : Type) where
  | add (spec : BindingSpec α) (origin : BindingOrigin)
  | remove (uniform : String)
  | clear
  | compute (uniform : String) (f : Audio.Frame α)
  | computeAll (f : Audio.Frame α)

namespace Act

/-- Whether an act binds a uniform. -/
def adds (u : String) : Act α → Bool
  | .add spec _ => spec.uniform = u
  | _ => false

/-- Whether a uniform is free after an act, whatever was before. -/
def unbinds (u : String) : Act α → Bool
  | .remove uniform => uniform = u
  | .clear => true
  | _ => false

/-- The frame that an act feeds to the binding of a uniform. -/
def frame? (u : String) : Act α → Option (Audio.Frame α)
  | .compute uniform f => if uniform = u then some f else none
  | .computeAll f => some f
  | _ => none

end Act

/-- After some acts a uniform is bound: it has been added, and has not become free since. -/
def IsBound (u : String) (xs : List (Act α)) : Prop :=
  ∃ ys spec origin zs, xs = ys ++ .add spec origin :: zs ∧ spec.uniform = u ∧
    ∀ z ∈ zs, z.unbinds u = false

/-- After some acts a uniform is bound, and some of them have come since it was last added. -/
def BoundSince (u : String) (xs : List (Act α)) (spec : BindingSpec α) (origin : BindingOrigin)
    (zs : List (Act α)) : Prop :=
  ∃ ys, xs = ys ++ .add spec origin :: zs ∧ spec.uniform = u ∧
    ∀ z ∈ zs, z.adds u = false ∧ z.unbinds u = false

theorem not_isBound_nil (u : String) : ¬IsBound u ([] : List (Act α)) := by
  rintro ⟨ys, spec, origin, zs, h, -⟩
  simp at h

/-- What an act does to whether a uniform is bound. -/
theorem isBound_append_singleton {u : String} {xs : List (Act α)} {x : Act α} :
    IsBound u (xs ++ [x]) ↔ x.adds u = true ∨ IsBound u xs ∧ x.unbinds u = false := by
  constructor
  · rintro ⟨ys, spec, origin, zs, h, hu, hzs⟩
    rcases append_singleton_eq_append_cons.mp h with ⟨-, rfl, -⟩ | ⟨ws, rfl, rfl⟩
    · exact .inl (decide_eq_true hu)
    · rw [List.forall_mem_append, List.forall_mem_singleton] at hzs
      exact .inr ⟨⟨ys, spec, origin, ws, rfl, hu, hzs.1⟩, hzs.2⟩
  · rintro (hadds | ⟨⟨ys, spec, origin, zs, rfl, hu, hzs⟩, hx⟩)
    · cases x with
      | add spec origin => exact ⟨xs, spec, origin, [], rfl, of_decide_eq_true hadds, by simp⟩
      | _ => cases hadds
    · refine ⟨ys, spec, origin, zs ++ [x], by simp, hu, ?_⟩
      rw [List.forall_mem_append, List.forall_mem_singleton]
      exact ⟨hzs, hx⟩

/-- What an act does to when a uniform was last added. -/
theorem boundSince_append_singleton {u : String} {xs zs : List (Act α)} {x : Act α}
    {spec : BindingSpec α} {origin : BindingOrigin} :
    BoundSince u (xs ++ [x]) spec origin zs ↔
      x = .add spec origin ∧ spec.uniform = u ∧ zs = [] ∨
      (x.adds u = false ∧ x.unbinds u = false) ∧
        ∃ ws, zs = ws ++ [x] ∧ BoundSince u xs spec origin ws := by
  constructor
  · rintro ⟨ys, h, hu, hzs⟩
    rcases append_singleton_eq_append_cons.mp h with ⟨-, rfl, rfl⟩ | ⟨ws, rfl, hxs⟩
    · exact .inl ⟨rfl, hu, rfl⟩
    · rw [List.forall_mem_append, List.forall_mem_singleton] at hzs
      exact .inr ⟨hzs.2, ws, rfl, ys, hxs, hu, hzs.1⟩
  · rintro (⟨rfl, hu, rfl⟩ | ⟨hx, ws, rfl, ys, rfl, hu, hws⟩)
    · exact ⟨xs, rfl, hu, by simp⟩
    · refine ⟨ys, by simp, hu, ?_⟩
      rw [List.forall_mem_append, List.forall_mem_singleton]
      exact ⟨hws, hx⟩

variable [Scalar α]

/-- A table after an act. -/
def act (t : BindingTable α) : Act α → BindingTable α
  | .add spec origin => t.add spec origin
  | .remove uniform => t.remove uniform
  | .clear => .empty
  | .compute uniform f => (t.compute uniform f).1
  | .computeAll f => (t.computeAll f).1

/-- A table after some acts. -/
def run (xs : List (Act α)) : BindingTable α := xs.foldl act .empty

theorem run_append_singleton (xs : List (Act α)) (x : Act α) :
    run (xs ++ [x]) = (run xs).act x := by
  simp [run]

/-! ## Entries -/

/-- What is computed for a uniform: its entry is advanced, and its output read. -/
theorem snd_compute (t : BindingTable α) (u : String) (f : Audio.Frame α) :
    (t.compute u f).2 = (Keyed.get? u t.entries).map fun e => (e.advance f).output := by
  simp only [compute, advanceOne, output?]
  cases hentry : Keyed.get? u t.entries with
  | none => simp [hentry]
  | some e => simp

/-- Together with the others the same is computed for a uniform as for itself. -/
theorem get?_computeAll (t : BindingTable α) (u : String) (f : Audio.Frame α) :
    Keyed.get? u (t.computeAll f).2 = (t.compute u f).2 := by
  rw [snd_compute, computeAll, outputs, advanceAll, List.map_map]
  exact Keyed.get?_map (fun e : BindingEntry α => (e.advance f).output) u t.entries

/-- Frames change nothing of an entry but its smoothed reading. -/
theorem binding_foldl_advance (e : BindingEntry α) (fs : List (Audio.Frame α)) :
    (fs.foldl .advance e).binding = e.binding := by
  induction fs generalizing e with
  | nil => rfl
  | cons f fs ih => exact ih (e.advance f)

/-- What an act does to the entry of a uniform. -/
def Act.entryAfter (u : String) (e : Option (BindingEntry α)) : Act α → Option (BindingEntry α)
  | .add spec origin => if spec.uniform = u then some (.ofSpec spec origin) else e
  | .remove uniform => if uniform = u then none else e
  | .clear => none
  | .compute uniform f => if uniform = u then e.map (·.advance f) else e
  | .computeAll f => e.map (·.advance f)

/-- What an act does to the entry of a uniform depends on this entry only. -/
theorem get?_act (t : BindingTable α) (x : Act α) (u : String) :
    Keyed.get? u (t.act x).entries = x.entryAfter u (Keyed.get? u t.entries) := by
  cases x with
  | add spec origin =>
      by_cases hu : spec.uniform = u
      · simp [act, add, Act.entryAfter, hu]
      · simp [act, add, Act.entryAfter, hu, Keyed.get?_put_of_ne _ _ (Ne.symm hu)]
  | remove uniform =>
      by_cases hu : uniform = u
      · simp [act, remove, Act.entryAfter, hu]
      · simp [act, remove, Act.entryAfter, hu, Keyed.get?_erase_of_ne _ (Ne.symm hu)]
  | clear => rfl
  | compute uniform f =>
      simp only [act, compute, advanceOne, Act.entryAfter]
      by_cases hu : uniform = u
      · subst hu
        cases hentry : Keyed.get? uniform t.entries with
        | none => simp [hentry]
        | some e => simp
      · cases hentry : Keyed.get? uniform t.entries with
        | none => simp [hu]
        | some e => simp [hu, Keyed.get?_put_of_ne _ _ (Ne.symm hu)]
  | computeAll f => exact Keyed.get?_map (fun e : BindingEntry α => e.advance f) u t.entries

/-- After an act there is an entry if the act is the adding of its binding, or else if there was one
that the act keeps and feeds a frame at most. -/
theorem Act.entryAfter_eq_some_iff {u : String} {x : Act α} {before : Option (BindingEntry α)}
    {e : BindingEntry α} :
    x.entryAfter u before = some e ↔
      (∃ spec origin, x = .add spec origin ∧ spec.uniform = u ∧ e = .ofSpec spec origin) ∨
      (x.adds u = false ∧ x.unbinds u = false) ∧
        ∃ old, before = some old ∧ e = (x.frame? u).toList.foldl .advance old := by
  have hfed (f : Audio.Frame α) : before.map (·.advance f) = some e ↔
      ∃ old, before = some old ∧ e = old.advance f := by
    rw [Option.map_eq_some_iff]
    exact exists_congr fun old => and_congr_right fun _ => eq_comm
  cases x with
  | add spec origin =>
      by_cases hu : spec.uniform = u
      · have hadds : (Act.add spec origin).adds u = true := decide_eq_true hu
        simp only [entryAfter, hu, if_true, Option.some.injEq, hadds, Bool.true_eq_false,
          false_and, or_false]
        constructor
        · rintro rfl
          exact ⟨spec, origin, rfl, hu, rfl⟩
        · rintro ⟨spec', origin', hadd, -, rfl⟩
          cases hadd
          rfl
      · simp [entryAfter, adds, unbinds, frame?, hu]
  | remove uniform =>
      by_cases hu : uniform = u <;> simp [entryAfter, adds, unbinds, frame?, hu]
  | clear => simp [entryAfter, adds, unbinds]
  | compute uniform f =>
      by_cases hu : uniform = u <;> simp [entryAfter, adds, unbinds, frame?, hu, hfed]
  | computeAll f => simp [entryAfter, adds, unbinds, frame?, hfed]

/-- The entry of a uniform is that of the binding that was last added, advanced by the frames that
it has been fed since. -/
theorem get?_run_eq_some_iff {u : String} {xs : List (Act α)} {e : BindingEntry α} :
    Keyed.get? u (run xs).entries = some e ↔
      ∃ spec origin zs, BoundSince u xs spec origin zs ∧
        e = (zs.filterMap (·.frame? u)).foldl .advance (.ofSpec spec origin) := by
  induction xs using List.reverseRecOn generalizing e with
  | nil =>
      constructor
      · intro h
        cases h
      · rintro ⟨spec, origin, zs, ⟨ys, h, -⟩, -⟩
        simp at h
  | append_singleton xs x ih =>
      have hfed (zs : List (Act α)) (old : BindingEntry α) :
          ((zs ++ [x]).filterMap (·.frame? u)).foldl BindingEntry.advance old =
            (x.frame? u).toList.foldl .advance
              ((zs.filterMap (·.frame? u)).foldl .advance old) := by
        cases hframe : x.frame? u <;> simp [hframe]
      rw [run_append_singleton, get?_act, Act.entryAfter_eq_some_iff]
      simp only [boundSince_append_singleton]
      constructor
      · rintro (⟨spec, origin, rfl, hu, rfl⟩ | ⟨hx, old, hold, rfl⟩)
        · exact ⟨spec, origin, [], .inl ⟨rfl, hu, rfl⟩, rfl⟩
        · obtain ⟨spec, origin, zs, hsince, rfl⟩ := ih.mp hold
          exact ⟨spec, origin, zs ++ [x], .inr ⟨hx, zs, rfl, hsince⟩, (hfed zs _).symm⟩
      · rintro ⟨spec, origin, zs, ⟨rfl, hu, rfl⟩ | ⟨hx, ws, rfl, hsince⟩, rfl⟩
        · exact .inl ⟨spec, origin, rfl, hu, rfl⟩
        · exact .inr ⟨hx, _, ih.mpr ⟨spec, origin, ws, hsince, rfl⟩, hfed ws _⟩

/-! ## Names -/

/-- What an act does to the names in a table. -/
theorem keys_act (t : BindingTable α) (x : Act α) :
    Keyed.keys (t.act x).entries = match x with
      | .add spec _ => if spec.uniform ∈ Keyed.keys t.entries then Keyed.keys t.entries
          else Keyed.keys t.entries ++ [spec.uniform]
      | .remove uniform => (Keyed.keys t.entries).filter fun k => decide (k ≠ uniform)
      | .clear => []
      | .compute .. | .computeAll _ => Keyed.keys t.entries := by
  cases x with
  | add spec origin => exact Keyed.keys_put _ _ _
  | remove uniform => exact Keyed.keys_erase _ _
  | clear => rfl
  | compute uniform f =>
      simp only [act, compute, advanceOne]
      cases hentry : Keyed.get? uniform t.entries with
      | none => rfl
      | some e => simp [Keyed.keys_put, Keyed.mem_keys_iff, hentry]
  | computeAll f => exact Keyed.keys_map (fun e : BindingEntry α => e.advance f) t.entries

/-- No uniform is bound twice. -/
theorem nodup_keys_run (xs : List (Act α)) : (Keyed.keys (run xs).entries).Nodup := by
  induction xs using List.reverseRecOn with
  | nil => exact List.nodup_nil
  | append_singleton xs x ih =>
      rw [run_append_singleton]
      cases x with
      | add spec origin => exact Keyed.nodup_keys_put ih _ _
      | remove uniform =>
          rw [keys_act]
          exact ih.filter _
      | clear => exact List.nodup_nil
      | compute uniform f => rwa [keys_act]
      | computeAll f => rwa [keys_act]

/-- Entries stand under the uniforms that are bound. -/
theorem mem_keys_run {u : String} {xs : List (Act α)} :
    u ∈ Keyed.keys (run xs).entries ↔ IsBound u xs := by
  induction xs using List.reverseRecOn with
  | nil =>
      refine iff_of_false ?_ (not_isBound_nil u)
      simp [run, empty, Keyed.keys]
  | append_singleton xs x ih =>
      rw [run_append_singleton, keys_act, isBound_append_singleton, ← ih]
      cases x with
      | add spec origin =>
          by_cases hmem : spec.uniform ∈ Keyed.keys (run xs).entries
          · simp only [hmem, if_true, Act.adds, Act.unbinds, decide_eq_true_eq, and_true]
            exact ⟨.inr, fun h => h.elim (fun hu => hu ▸ hmem) id⟩
          · simp only [hmem, if_false, List.mem_append, List.mem_singleton, Act.adds, Act.unbinds,
              decide_eq_true_eq, and_true]
            rw [or_comm, eq_comm]
      | remove uniform =>
          simp only [List.mem_filter, decide_eq_true_eq, Act.adds, Act.unbinds,
            decide_eq_false_iff_not, Bool.false_eq_true, false_or]
          rw [ne_comm]
      | clear => simp [Act.adds, Act.unbinds]
      | compute uniform f => simp [Act.adds, Act.unbinds]
      | computeAll f => simp [Act.adds, Act.unbinds]

end BindingTable

end LiveVisuals
