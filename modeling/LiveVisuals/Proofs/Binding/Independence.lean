import LiveVisuals.Proofs.Binding.Course

/-!
# Bindings do not interfere

What happens to one binding is no concern of the others. The entry of a uniform is changed, and its
output computed, without regard to any other entry, so that all acts that do not concern a uniform
could be left out. What the entries have in common is their order: a new one comes last, and it
keeps its place until its uniform becomes free.

Main definitions:

- {lit}`BindingTable.Act.concerns`: acts that may have to do with a uniform.
- {lit}`BindingTable.returned`, {lit}`BindingTable.outputsFor`: what acts return for a uniform.
- {lit}`BindingTable.FirstAdded`: when a uniform was added that was absent before.

Main results:

- Theorem {lit}`BindingTable.outputsFor_congr`: outputs depend on the entry of their uniform only.
- Theorem {lit}`BindingTable.outputsFor_filter`: acts that do not concern a uniform make no
  difference to its outputs.
- Theorem {lit}`BindingTable.pairwise_keys_run`: uniforms stand in the order of their first adding.
- Theorem {lit}`BindingTable.computeAll_eq_foldl`: to compute all bindings is to compute one after
  the other.
- Theorem {lit}`Keyed.exists_put_of_mem`: a value put under a name that is there takes its place.
- Theorem {lit}`BindingTable.bindings_do_not_interfere`: what holds of all runs.
-/

namespace LiveVisuals

/-- A value put under a name that is there takes its place. -/
theorem Keyed.exists_put_of_mem {β : Type} {key : String} {t : Keyed β} (h : key ∈ keys t)
    (value : β) : ∃ before old after,
      t = before ++ (key, old) :: after ∧ put key value t = before ++ (key, value) :: after := by
  induction t with
  | nil => cases h
  | cons e t ih =>
      obtain ⟨k, v⟩ := e
      by_cases hk : k = key
      · subst hk
        exact ⟨[], v, t, rfl, by simp [put]⟩
      · have hmem : key ∈ keys t := (List.mem_cons.mp h).resolve_left (Ne.symm hk)
        obtain ⟨before, old, after, ht, hput⟩ := ih hmem
        refine ⟨(k, v) :: before, old, after, by rw [ht]; rfl, ?_⟩
        rw [put, if_neg hk, hput]
        rfl

/-- A value put under a name that does not come earlier takes its place. -/
theorem Keyed.put_append_cons {β : Type} {key : String} {before : Keyed β}
    (h : key ∉ keys before) (value old : β) (after : Keyed β) :
    put key value (before ++ (key, old) :: after) = before ++ (key, value) :: after := by
  induction before with
  | nil => simp [put]
  | cons e before ih =>
      obtain ⟨k, v⟩ := e
      obtain ⟨hk, hrest⟩ := not_or.mp (mt List.mem_cons.mpr h)
      rw [List.cons_append, put, if_neg (Ne.symm hk), ih hrest]
      rfl

namespace BindingTable

variable {α : Type}

/-- Whether an act concerns a uniform: it is an act on this uniform, or one on all of them. -/
def Act.concerns (u : String) : Act α → Bool
  | .add spec _ => spec.uniform = u
  | .remove uniform | .compute uniform _ => uniform = u
  | .clear | .computeAll _ => true

/-- The place among some acts at which a uniform was first added since it was last absent. -/
def FirstAdded (u : String) (xs : List (Act α)) (i : Nat) : Prop :=
  ∃ ys spec origin zs, xs = ys ++ .add spec origin :: zs ∧ ys.length = i ∧ spec.uniform = u ∧
    ¬IsBound u ys ∧ ∀ z ∈ zs, z.unbinds u = false

/-! ## Order -/

theorem FirstAdded.isBound {u : String} {xs : List (Act α)} {i : Nat} (h : FirstAdded u xs i) :
    IsBound u xs := by
  obtain ⟨ys, spec, origin, zs, hxs, -, hu, -, hzs⟩ := h
  exact ⟨ys, spec, origin, zs, hxs, hu, hzs⟩

theorem FirstAdded.lt_length {u : String} {xs : List (Act α)} {i : Nat} (h : FirstAdded u xs i) :
    i < xs.length := by
  obtain ⟨ys, spec, origin, zs, rfl, rfl, -⟩ := h
  simp

/-- What an act does to the place at which a uniform was first added. -/
theorem firstAdded_append_singleton {u : String} {xs : List (Act α)} {x : Act α} {i : Nat} :
    FirstAdded u (xs ++ [x]) i ↔ FirstAdded u xs i ∧ x.unbinds u = false ∨
      x.adds u = true ∧ ¬IsBound u xs ∧ i = xs.length := by
  constructor
  · rintro ⟨ys, spec, origin, zs, h, hi, hu, hnew, hzs⟩
    rcases append_singleton_eq_append_cons.mp h with ⟨rfl, rfl, -⟩ | ⟨ws, rfl, rfl⟩
    · exact .inr ⟨decide_eq_true hu, hnew, hi.symm⟩
    · rw [List.forall_mem_append, List.forall_mem_singleton] at hzs
      exact .inl ⟨⟨ys, spec, origin, ws, rfl, hi, hu, hnew, hzs.1⟩, hzs.2⟩
  · rintro (⟨⟨ys, spec, origin, zs, rfl, hi, hu, hnew, hzs⟩, hx⟩ | ⟨hadds, hnew, rfl⟩)
    · refine ⟨ys, spec, origin, zs ++ [x], by simp, hi, hu, hnew, ?_⟩
      rw [List.forall_mem_append, List.forall_mem_singleton]
      exact ⟨hzs, hx⟩
    · cases x with
      | add spec origin =>
          exact ⟨xs, spec, origin, [], rfl, rfl, of_decide_eq_true hadds, hnew, by simp⟩
      | _ => cases hadds

/-- A uniform that is bound was first added at some place. -/
theorem exists_firstAdded {u : String} {xs : List (Act α)} (h : IsBound u xs) :
    ∃ i, FirstAdded u xs i := by
  induction xs using List.reverseRecOn with
  | nil => exact absurd h (not_isBound_nil u)
  | append_singleton xs x ih =>
      simp only [firstAdded_append_singleton]
      by_cases hbound : IsBound u xs
      · obtain ⟨i, hi⟩ := ih hbound
        have hunbinds : x.unbinds u = false := by
          rcases isBound_append_singleton.mp h with hadds | ⟨-, hx⟩
          · cases x with
            | add spec origin => rfl
            | _ => cases hadds
          · exact hx
        exact ⟨i, .inl ⟨hi, hunbinds⟩⟩
      · have hadds := (isBound_append_singleton.mp h).resolve_right fun h => hbound h.1
        exact ⟨xs.length, .inr ⟨hadds, hbound, rfl⟩⟩

variable [Scalar α]

/-- Uniforms stand in the order in which they were first added since they were last absent. -/
theorem pairwise_keys_run (xs : List (Act α)) :
    (Keyed.keys (run xs).entries).Pairwise fun u v =>
      ∀ i j, FirstAdded u xs i → FirstAdded v xs j → i < j := by
  induction xs using List.reverseRecOn with
  | nil => exact List.Pairwise.nil
  | append_singleton xs x ih =>
      have hplace {u : String} (hu : u ∈ Keyed.keys (run xs).entries) {i : Nat}
          (hi : FirstAdded u (xs ++ [x]) i) : FirstAdded u xs i := by
        rcases firstAdded_append_singleton.mp hi with ⟨hi, -⟩ | ⟨-, hnew, -⟩
        · exact hi
        · exact absurd (mem_keys_run.mp hu) hnew
      -- those that were there before keep their order
      have hold : (Keyed.keys (run xs).entries).Pairwise fun u v =>
          ∀ i j, FirstAdded u (xs ++ [x]) i → FirstAdded v (xs ++ [x]) j → i < j :=
        ih.imp_of_mem fun hu hv h i j hi hj => h i j (hplace hu hi) (hplace hv hj)
      rw [run_append_singleton, keys_act]
      cases x with
      | add spec origin =>
          by_cases hmem : spec.uniform ∈ Keyed.keys (run xs).entries
          · simpa only [hmem, if_true] using hold
          · simp only [hmem, if_false]
            refine List.pairwise_append.mpr ⟨hold, List.pairwise_singleton _ _, ?_⟩
            intro u hu v hv i j hi hj
            rw [List.mem_singleton.mp hv] at hj
            rcases firstAdded_append_singleton.mp hj with ⟨hj, -⟩ | ⟨-, -, rfl⟩
            · exact absurd (mem_keys_run.mpr hj.isBound) hmem
            · exact (hplace hu hi).lt_length
      | remove uniform => exact hold.filter _
      | clear => exact List.Pairwise.nil
      | compute uniform f => exact hold
      | computeAll f => exact hold

/-! ## Outputs -/

/-- What an act returns for a uniform: its output, or none, if it is computed at all. -/
def returned (u : String) (t : BindingTable α) : Act α → List (Option α)
  | .compute uniform f => if uniform = u then [(t.compute uniform f).2] else []
  | .computeAll f => [Keyed.get? u (t.computeAll f).2]
  | _ => []

/-- What some acts return for a uniform, in order. -/
def outputsFor (u : String) (t : BindingTable α) : List (Act α) → List (Option α)
  | [] => []
  | x :: xs => t.returned u x ++ (t.act x).outputsFor u xs

/-- What an act returns for a uniform depends on its entry only. -/
theorem returned_congr {u : String} {t t' : BindingTable α}
    (h : Keyed.get? u t.entries = Keyed.get? u t'.entries) (x : Act α) :
    t.returned u x = t'.returned u x := by
  cases x with
  | compute uniform f =>
      by_cases hu : uniform = u
      · subst hu
        simp [returned, snd_compute, h]
      · simp [returned, hu]
  | computeAll f => simp [returned, get?_computeAll, snd_compute, h]
  | _ => rfl

/-- Outputs depend on the entry of their uniform only. -/
theorem outputsFor_congr {u : String} {t t' : BindingTable α}
    (h : Keyed.get? u t.entries = Keyed.get? u t'.entries) (xs : List (Act α)) :
    t.outputsFor u xs = t'.outputsFor u xs := by
  induction xs generalizing t t' with
  | nil => rfl
  | cons x xs ih =>
      have hact : Keyed.get? u (t.act x).entries = Keyed.get? u (t'.act x).entries := by
        rw [get?_act, get?_act, h]
      rw [outputsFor, outputsFor, returned_congr h, ih hact]

/-- An act that does not concern a uniform leaves its entry, and returns nothing for it. -/
theorem act_of_not_concerns {u : String} (t : BindingTable α) {x : Act α}
    (h : x.concerns u = false) :
    Keyed.get? u (t.act x).entries = Keyed.get? u t.entries ∧ t.returned u x = [] := by
  rw [get?_act]
  cases x with
  | add spec origin => simp_all [Act.concerns, Act.entryAfter, returned]
  | remove uniform => simp_all [Act.concerns, Act.entryAfter, returned]
  | compute uniform f => simp_all [Act.concerns, Act.entryAfter, returned]
  | clear => cases h
  | computeAll f => cases h

/-- Acts that do not concern a uniform make no difference to its outputs. -/
theorem outputsFor_filter (u : String) (t : BindingTable α) (xs : List (Act α)) :
    t.outputsFor u xs = t.outputsFor u (xs.filter (·.concerns u)) := by
  induction xs generalizing t with
  | nil => rfl
  | cons x xs ih =>
      by_cases hx : x.concerns u = true
      · rw [List.filter_cons_of_pos hx, outputsFor, outputsFor, ih]
      · rw [List.filter_cons_of_neg hx, outputsFor]
        rw [Bool.not_eq_true] at hx
        obtain ⟨hentry, hreturned⟩ := t.act_of_not_concerns hx
        rw [hreturned, List.nil_append, outputsFor_congr hentry, ih]

/-- To advance all bindings at once is to compute them one after the other. -/
theorem computeAll_eq_foldl {t : BindingTable α} (h : (Keyed.keys t.entries).Nodup)
    (f : Audio.Frame α) :
    (t.computeAll f).1 = (Keyed.keys t.entries).foldl (fun t u => (t.compute u f).1) t := by
  -- those that have been computed stand ahead of those that are left
  have hfrom (done left : Keyed (BindingEntry α)) (h : (Keyed.keys (done ++ left)).Nodup) :
      (Keyed.keys left).foldl (fun t u => (compute t u f).1) ⟨done ++ left⟩ =
        BindingTable.mk (done ++ left.map fun e => (e.1, e.2.advance f)) := by
    induction left generalizing done with
    | nil => rfl
    | cons e left ih =>
        obtain ⟨k, e⟩ := e
        have hfound : Keyed.get? k (done ++ (k, e) :: left) = some e :=
          Keyed.get?_of_mem h (List.mem_append_right done List.mem_cons_self)
        have hnew : k ∉ Keyed.keys done := by
          rw [Keyed.keys, List.map_append, List.nodup_append] at h
          exact fun hk => h.2.2 k hk k (by simp) rfl
        have hcompute : ((⟨done ++ (k, e) :: left⟩ : BindingTable α).compute k f).1 =
            ⟨(done ++ [(k, e.advance f)]) ++ left⟩ := by
          simp [compute, advanceOne, hfound, Keyed.put_append_cons hnew]
        have hnodup : (Keyed.keys ((done ++ [(k, e.advance f)]) ++ left)).Nodup := by
          simpa [Keyed.keys] using h
        have hnext := ih (done ++ [(k, e.advance f)]) hnodup
        rw [← hcompute, List.append_assoc] at hnext
        exact hnext
  exact (hfrom [] t.entries h).symm

/-- Bindings do not interfere. First, what any acts return for a uniform is what those of them
return that concern it. Second, all outputs together are one for each uniform that is bound, the
same that it would have for itself, in the order in which the uniforms were first added since they
were last absent. Third, adding a binding for a uniform that is bound puts it into the place of the
one before, with its reading smoothed from zero, and moves nothing else; from then on the uniform
has the outputs that it would have in a table with this binding only. -/
theorem bindings_do_not_interfere :
    (∀ (u : String) (xs : List (Act α)),
      outputsFor u .empty xs = outputsFor u .empty (xs.filter (·.concerns u))) ∧
    (∀ (xs : List (Act α)) (f : Audio.Frame α),
      let outputs := ((run xs).computeAll f).2
      (Keyed.keys outputs).Nodup ∧
      (∀ u, u ∈ Keyed.keys outputs ↔ IsBound u xs) ∧
      (∀ u, Keyed.get? u outputs = ((run xs).compute u f).2) ∧
      (∀ u, IsBound u xs → ∃ i, FirstAdded u xs i) ∧
      (Keyed.keys outputs).Pairwise fun u v =>
        ∀ i j, FirstAdded u xs i → FirstAdded v xs j → i < j) ∧
    ∀ (xs : List (Act α)) (spec : BindingSpec α) (origin : BindingOrigin),
      IsBound spec.uniform xs →
      (∃ before old after, (run xs).entries = before ++ (spec.uniform, old) :: after ∧
        (run (xs ++ [.add spec origin])).entries = before ++
          (spec.uniform, ⟨{ spec.normalize with origin := origin }, 0.0⟩) :: after) ∧
      ∀ ys, outputsFor spec.uniform (run (xs ++ [.add spec origin])) ys =
        outputsFor spec.uniform (run [.add spec origin]) ys := by
  refine ⟨fun u xs => outputsFor_filter u _ xs, ?_, ?_⟩
  · intro xs f outputs
    have hkeys : Keyed.keys outputs = Keyed.keys (run xs).entries := by
      refine (Keyed.keys_map (fun e : BindingEntry α => e.output) _).trans ?_
      exact Keyed.keys_map (fun e : BindingEntry α => e.advance f) _
    rw [hkeys]
    exact ⟨nodup_keys_run xs, fun u => mem_keys_run, fun u => get?_computeAll _ u f,
      fun u => exists_firstAdded, pairwise_keys_run xs⟩
  · intro xs spec origin hbound
    constructor
    · rw [run_append_singleton]
      exact Keyed.exists_put_of_mem (mem_keys_run.mpr hbound) _
    · refine outputsFor_congr ?_
      rw [run_append_singleton, get?_act]
      simp [Act.entryAfter, run, act, add]

/-- The first of two uniforms is bound anew, to another feature, and stays the first. -/
theorem bindings_do_not_interfere_of_rebound :
    let glow : BindingSpec Float := ⟨"glow", "bass", "add", 1.0, 0.5, 0.0, 0.0, 1.0⟩
    let hue : BindingSpec Float := { glow with uniform := "hue" }
    let xs : List (Act Float) := [.add glow .auto, .add hue .auto, .computeAll .silent]
    let rebound : BindingSpec Float := { glow with feature := "mid" }
    IsBound rebound.uniform xs ∧
      (∃ before old after, (run xs).entries = before ++ ("glow", old) :: after ∧
        (run (xs ++ [.add rebound .explicit])).entries = before ++
          ("glow", ⟨{ rebound.normalize with origin := .explicit }, 0.0⟩) :: after) ∧
      Keyed.keys (run (xs ++ [.add rebound .explicit])).entries = ["glow", "hue"] := by
  intro glow hue xs rebound
  have hbound : IsBound rebound.uniform xs :=
    ⟨[], glow, .auto, [.add hue .auto, .computeAll .silent], rfl, rfl, by decide⟩
  exact ⟨hbound, (bindings_do_not_interfere.2.2 xs rebound .explicit hbound).1, rfl⟩

end BindingTable

end LiveVisuals
