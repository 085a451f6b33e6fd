/-!
# Keyed lists

Values by name, in the order in which the names first came. A value put under a name that is
there takes its place; a removed name that comes back goes to the end.

Main definitions:

- {lit}`Keyed`: pairs of name and value.
- {lit}`Keyed.put`, {lit}`Keyed.erase`, {lit}`Keyed.get?`: the operations.

Main statements:

- {lit}`Keyed.get?_put_self` and {lit}`Keyed.get?_put_of_ne`: a put is read back, and other
  names are not disturbed.
- {lit}`Keyed.get?_erase_self` and {lit}`Keyed.get?_erase_of_ne`: the same for removal.
- {lit}`Keyed.mem_keys_iff`: the names are those that have a value.
-/

namespace LiveVisuals

/-- Values by name, in order. -/
abbrev Keyed (β : Type) := List (String × β)

namespace Keyed

variable {β : Type}

/-- Names in order. -/
def keys (t : Keyed β) : List String := t.map (·.1)

/-- Values in order. -/
def values (t : Keyed β) : List β := t.map (·.2)

/-- The value under a name. -/
def get? (key : String) : Keyed β → Option β
  | [] => none
  | (k, v) :: rest => if k = key then some v else get? key rest

/-- Put a value under a name: in place if the name is there, else at the end. -/
def put (key : String) (value : β) : Keyed β → Keyed β
  | [] => [(key, value)]
  | (k, v) :: rest => if k = key then (key, value) :: rest else (k, v) :: put key value rest

/-- Remove a name. -/
def erase (key : String) (t : Keyed β) : Keyed β := t.filter fun e => decide (e.1 ≠ key)

/-- Whether a name is there. -/
def has (key : String) (t : Keyed β) : Bool := (get? key t).isSome

/-- A put is read back. -/
@[simp] theorem get?_put_self (key : String) (value : β) (t : Keyed β) :
    get? key (put key value t) = some value := by
  induction t with
  | nil => simp [put, get?]
  | cons e t ih =>
      obtain ⟨k, v⟩ := e
      by_cases h : k = key <;> simp [put, get?, h, ih]

example : get? "a" (put "a" 1 [("b", 0)]) = some 1 := by cbv

/-- A put leaves other names alone. -/
theorem get?_put_of_ne {key other : String} (value : β) (t : Keyed β) (h : other ≠ key) :
    get? other (put key value t) = get? other t := by
  induction t with
  | nil => simp [put, get?, Ne.symm h]
  | cons e t ih =>
      obtain ⟨k, v⟩ := e
      by_cases hk : k = key
      · subst hk
        simp [put, get?, Ne.symm h]
      · by_cases ho : k = other
        · subst ho
          simp [put, get?, hk]
        · simp [put, get?, hk, ho, ih]

/-- A removed name has no value. -/
@[simp] theorem get?_erase_self (key : String) (t : Keyed β) :
    get? key (erase key t) = none := by
  induction t with
  | nil => rfl
  | cons e t ih =>
      obtain ⟨k, v⟩ := e
      by_cases h : k = key
      · simpa [erase, h] using ih
      · simpa [erase, get?, h] using ih

/-- Removing a name leaves the others alone. -/
theorem get?_erase_of_ne {key other : String} (t : Keyed β) (h : other ≠ key) :
    get? other (erase key t) = get? other t := by
  induction t with
  | nil => rfl
  | cons e t ih =>
      obtain ⟨k, v⟩ := e
      by_cases hk : k = key
      · subst hk
        simpa [erase, get?, Ne.symm h] using ih
      · by_cases ho : k = other
        · simp [erase, get?, ho, h]
        · simpa [erase, get?, hk, ho] using ih

/-- Putting a value keeps the names and may add one at the end. -/
theorem keys_put (key : String) (value : β) (t : Keyed β) :
    keys (put key value t) = if key ∈ keys t then keys t else keys t ++ [key] := by
  induction t with
  | nil => simp [put, keys]
  | cons e t ih =>
      obtain ⟨k, v⟩ := e
      by_cases h : k = key
      · simp [put, keys, h]
      · simp only [put, h, if_false, keys, List.map_cons, List.mem_cons, Ne.symm h, false_or]
          at ih ⊢
        rw [ih]
        split <;> simp [*]

/-- A value under a new name goes to the end. -/
theorem put_of_not_mem {key : String} (value : β) {t : Keyed β} (h : key ∉ keys t) :
    put key value t = t ++ [(key, value)] := by
  induction t with
  | nil => rfl
  | cons e t ih =>
      obtain ⟨k, v⟩ := e
      simp only [keys, List.map_cons, List.mem_cons, not_or] at h
      have hk : k ≠ key := fun heq => h.1 heq.symm
      rw [put, if_neg hk, ih h.2]
      rfl

/-- Putting a value keeps the names pairwise different. -/
theorem nodup_keys_put {t : Keyed β} (h : (keys t).Nodup) (key : String) (value : β) :
    (keys (put key value t)).Nodup := by
  rw [keys_put]
  split
  · exact h
  · next hnew =>
    rw [List.nodup_append]
    refine ⟨h, List.pairwise_singleton _ key, ?_⟩
    intro a ha b hb heq
    exact hnew (List.mem_singleton.mp hb ▸ heq ▸ ha)

/-- The names are those that have a value. -/
theorem mem_keys_iff {key : String} {t : Keyed β} :
    key ∈ keys t ↔ ∃ value, get? key t = some value := by
  induction t with
  | nil => simp [keys, get?]
  | cons e t ih =>
      obtain ⟨k, v⟩ := e
      by_cases h : k = key
      · simp [keys, get?, h]
      · simpa [keys, get?, h, Ne.symm h] using ih

/-- A value that is found is there. -/
theorem mem_of_get? {key : String} {value : β} {t : Keyed β} (h : get? key t = some value) :
    (key, value) ∈ t := by
  induction t with
  | nil => cases h
  | cons e t ih =>
      obtain ⟨k, v⟩ := e
      rw [get?] at h
      split at h
      · next hk =>
        cases h
        rw [hk]
        exact List.mem_cons_self
      · exact List.mem_cons_of_mem _ (ih h)

/-- If each name is there once, its value is found. -/
theorem get?_of_mem {t : Keyed β} (h : (keys t).Nodup) {key : String} {value : β}
    (hmem : (key, value) ∈ t) : get? key t = some value := by
  induction t with
  | nil => cases hmem
  | cons e t ih =>
      obtain ⟨k, v⟩ := e
      rw [keys, List.map_cons, List.nodup_cons] at h
      rcases List.mem_cons.mp hmem with heq | hmem
      · cases heq
        simp [get?]
      · have hne : k ≠ key := by
          rintro rfl
          exact h.1 (List.mem_map.mpr ⟨_, hmem, rfl⟩)
        rw [get?, if_neg hne]
        exact ih h.2 hmem

/-- What is left when a name is removed was there, under another name. -/
theorem get?_of_erase {key other : String} {t : Keyed β} {value : β}
    (h : get? other (erase key t) = some value) : other ≠ key ∧ get? other t = some value := by
  have hne : other ≠ key := by
    intro heq
    rw [heq, get?_erase_self] at h
    cases h
  exact ⟨hne, by rwa [get?_erase_of_ne t hne] at h⟩

/-- Removing a name leaves the other names, in order. -/
theorem keys_erase (key : String) (t : Keyed β) :
    keys (erase key t) = (keys t).filter fun k => decide (k ≠ key) := by
  simp only [keys, erase, List.filter_map]
  rfl

end Keyed

end LiveVisuals
