import LiveVisuals.Schema.Checked

/-!
# What accepted data satisfies

A value is accepted as a whole only if each of its parts is, and a value under conditions only
if it meets them all.

Main results:

- Theorem {lit}`Checked.combine_eq_accepted`: a combination is accepted if both parts are.
- Theorem {lit}`Schema.satisfying_eq_accepted`: an accepted value meets the conditions.
- Theorem {lit}`Schema.isFinite_of_finiteNumber`: an accepted finite number is finite.
- Theorem {lit}`Schema.exists_of_list`: each item of an accepted list was accepted.
- Theorem {lit}`Schema.object_eq_accepted`: only objects are accepted as objects.
-/

namespace LiveVisuals

namespace Checked

variable {β γ : Type}

/-- A combination is accepted if and only if both parts are. -/
theorem combine_eq_accepted {f : Checked (β → γ)} {b : Checked β} {c : γ} :
    combine f b = accepted c ↔ ∃ g a, f = accepted g ∧ b = accepted a ∧ g a = c := by
  cases f <;> cases b <;> simp [combine]

/-- Sequencing checks combines them. -/
theorem seq_eq_accepted {f : Checked (β → γ)} {b : Checked β} {c : γ} :
    f <*> b = accepted c ↔ ∃ g a, f = accepted g ∧ b = accepted a ∧ g a = c :=
  combine_eq_accepted

/-- A changed value is accepted if and only if the value is. -/
theorem map_eq_accepted {f : β → γ} {b : Checked β} {c : γ} :
    f <$> b = accepted c ↔ ∃ a, b = accepted a ∧ f a = c := by
  have hseq : f <$> b = combine (accepted f) b := rfl
  rw [hseq, combine_eq_accepted]
  simp

/-- Each item of an accepted list was accepted. -/
theorem exists_of_all {check : γ → Checked β} {cs : List γ} {bs : List β} {n : Nat}
    (h : all check n cs = accepted bs) : ∀ b ∈ bs, ∃ c ∈ cs, check c = accepted b := by
  induction cs generalizing bs n with
  | nil =>
      cases h
      simp
  | cons c cs ih =>
      obtain ⟨cons, rest, hcons, hrest, rfl⟩ := combine_eq_accepted.mp h
      obtain ⟨b, hb, rfl⟩ : ∃ b, check c = accepted b ∧ List.cons b = cons := by
        cases hc : check c with
        | accepted b => exact ⟨b, rfl, by simpa [hc, under, map] using hcons⟩
        | refused is => simp [hc, under, map] at hcons
      refine List.forall_mem_cons.mpr ⟨⟨c, List.mem_cons_self, hb⟩, fun b' hb' => ?_⟩
      obtain ⟨c', hc', hcheck⟩ := ih hrest b' hb'
      exact ⟨c', List.mem_cons_of_mem c hc', hcheck⟩

/-- A key changes nothing for accepted values. -/
@[simp] theorem under_eq_accepted {key : String} {b : Checked β} {a : β} :
    under key b = accepted a ↔ b = accepted a := by
  cases b <;> simp [under]

end Checked

namespace Schema

variable {α β : Type}

/-- An accepted value meets the conditions. -/
theorem satisfying_eq_accepted {s : Schema α β} {conditions : List (Condition β)}
    {v : Option (Json α)} {b : β} :
    satisfying s conditions v = .accepted b ↔
      s v = .accepted b ∧ ∀ c ∈ conditions, c.holds b := by
  rw [satisfying]
  cases hs : s v with
  | refused is => simp
  | accepted a =>
      cases hfailed : conditions.filter fun c => !c.holds a with
      | nil =>
          have hall : ∀ c ∈ conditions, c.holds a := by simpa using hfailed
          simp only [hfailed, Checked.accepted.injEq]
          constructor
          · rintro rfl
            exact ⟨rfl, hall⟩
          · exact And.left
      | cons c cs =>
          have hc : c ∈ conditions ∧ c.holds a = false := by
            have hmem : c ∈ conditions.filter fun c => !c.holds a := by simp [hfailed]
            simpa using hmem
          simp only [hfailed, reduceCtorEq, Checked.accepted.injEq, false_iff]
          rintro ⟨rfl, hall⟩
          exact Bool.false_ne_true (hc.2.symm.trans (hall c hc.1))

/-- A value that may be missing and is there was accepted. -/
theorem accepted_of_optional [Scalar α] {s : Schema α β} {v : Option (Json α)} {b : β}
    (h : optional s v = .accepted (some b)) : s v = .accepted b := by
  unfold optional at h
  split at h
  · cases h
  · cases hs : s v with
    | accepted b' => simpa [hs, Checked.map] using h
    | refused is => simp [hs, Checked.map] at h

/-- Only strings are accepted as strings. -/
theorem string_eq_accepted [Scalar α] {v : Option (Json α)} {s : String} :
    string v = .accepted s ↔ v = some (.str s) := by
  rcases v with _ | (_ | _ | _ | _ | _ | _) <;> simp [string, unexpected, Checked.fail]

/-- A value that is there is accepted if it would be without leave to be missing. -/
theorem optional_some_eq_accepted [Scalar α] {s : Schema α β} {v : Json α} {b : Option β} :
    optional s (some v) = .accepted b ↔ ∃ b', s (some v) = .accepted b' ∧ some b' = b := by
  change (s (some v)).map some = .accepted b ↔ _
  cases s (some v) <;> simp [Checked.map]

/-- A string that may be missing is accepted if it is missing or a string. -/
theorem optional_string_eq_accepted [Scalar α] {v : Option (Json α)} {s : Option String} :
    optional string v = .accepted s ↔ v = s.map .str := by
  cases s with
  | some s =>
      constructor
      · intro h
        exact string_eq_accepted.mp (accepted_of_optional h)
      · rintro rfl
        rfl
  | none =>
      rcases v with _ | (_ | _ | _ | _ | _ | _) <;>
        simp [optional, string, unexpected, Checked.fail, Checked.map]

/-- An accepted number is defined. -/
theorem defined_of_number [Scalar α] {v : Option (Json α)} {x : α}
    (h : number v = .accepted x) : Scalar.isUndefined x = false := by
  unfold number at h
  split at h
  · split at h
    · simp [unexpected, Checked.fail] at h
    · next hdefined =>
        cases h
        exact Bool.eq_false_iff.mpr hdefined
  · cases v <;> simp [unexpected, Checked.fail] at h

/-- A number that is accepted as finite is so. -/
theorem isFinite_of_finiteNumber [Scalar α] {v : Option (Json α)} {x : α}
    (h : finiteNumber v = .accepted x) : Scalar.isFinite x = true := by
  rw [finiteNumber, satisfying_eq_accepted] at h
  exact h.2 _ List.mem_cons_self

/-- Only lists are accepted as lists, and each item was accepted. -/
theorem exists_of_list [Scalar α] {item : Schema α β} {v : Option (Json α)} {bs : List β}
    (h : list item v = .accepted bs) : ∀ b ∈ bs, ∃ w, item (some w) = .accepted b := by
  unfold list at h
  split at h
  · intro b hb
    obtain ⟨w, -, hw⟩ := Checked.exists_of_all h b hb
    exact ⟨w, hw⟩
  · cases v <;> simp [unexpected, Checked.fail] at h

/-- Only objects are accepted as objects. -/
theorem object_eq_accepted [Scalar α] {fields : List (String × Json α) → Checked β}
    {v : Option (Json α)} {b : β} :
    object fields v = .accepted b ↔ ∃ fs, v = some (.obj fs) ∧ fields fs = .accepted b := by
  rcases v with _ | (_ | _ | _ | _ | _ | _) <;> simp [object, unexpected, Checked.fail]

end Schema

end LiveVisuals
