import LiveVisuals.Proofs.Files.Listing

/-!
# Operations leave their time in a tree

Whatever is written, made or dated anew has the time of the operation, and so has a directory from
which something is removed. A walk meets that time, if the names are not hidden, so that a tree
outdates an earlier state of it after an operation at a later time.

Main definitions:

- {lit}`Files.Node.Outdates`: something in a tree was modified later than all of another.
- {lit}`Files.Node.Edited`: a tree after an operation on names that are not hidden.

Main results:

- Theorem {lit}`Files.Node.outdates_iff`: a tree outdates those with earlier modifications only.
- Theorem {lit}`Files.Node.Edited.mem_stamps`: an operation leaves its time in the tree.
- Theorem {lit}`Files.Node.Edited.outdates`: it makes the tree outdate what is older.
-/

namespace LiveVisuals

namespace Files.Node

/-! ## The latest modification -/

theorem modified_mem_stamps (n : Node) : n.modified ∈ n.stamps := by
  cases n <;> simp [stamps, modified]

theorem latestOf_mem {times : List Nat} (h : times ≠ []) : latestOf times ∈ times := by
  induction times with
  | nil => exact absurd rfl h
  | cons time times ih =>
      rw [latestOf_cons, List.mem_cons]
      by_cases hle : latestOf times ≤ time
      · exact .inl (Nat.max_eq_left hle)
      · have hne : times ≠ [] := by
          rintro rfl
          exact hle (Nat.zero_le _)
        rw [Nat.max_eq_right (by omega)]
        exact .inr (ih hne)

/-- Something in a tree was modified at the latest modification. -/
theorem exists_modified_eq_latest (n : Node) :
    ∃ path inner, n.Leads path inner ∧ inner.modified = n.latest :=
  mem_stamps.mp (latestOf_mem (List.ne_nil_of_mem n.modified_mem_stamps))

/-- Something in a tree was modified later than everything in another tree. -/
def Outdates (n' n : Node) : Prop :=
  ∃ path inner, n'.Leads path inner ∧
    ∀ path' inner', n.Leads path' inner' → inner'.modified < inner.modified

theorem outdates_iff {n n' : Node} : n'.Outdates n ↔ n.latest < n'.latest := by
  constructor
  · rintro ⟨path, inner, hleads, hlater⟩
    obtain ⟨path', inner', hleads', hlatest⟩ := n.exists_modified_eq_latest
    exact hlatest ▸ Nat.lt_of_lt_of_le (hlater path' inner' hleads') hleads.modified_le
  · intro hlt
    obtain ⟨path, inner, hleads, hlatest⟩ := n'.exists_modified_eq_latest
    refine ⟨path, inner, hleads, fun path' inner' hleads' => ?_⟩
    rw [hlatest]
    exact Nat.lt_of_le_of_lt hleads'.modified_le hlt

/-! ## Operations leave their time in the tree -/

section Operations

variable {now time : Nat} {name : String} {inner n n' : Node} {entries : List (String × Node)}
  {p : Path}

/-- What is put into a directory under a name that is not hidden is seen there. -/
theorem mem_stamps_put (plain : Walk.isHidden name = false) (h : now ∈ inner.stamps) :
    now ∈ (directory (Keyed.put name inner entries) time).stamps := by
  have hput : (name, inner) ∈ Keyed.put name inner entries :=
    Keyed.mem_of_get? (Keyed.get?_put_self name inner entries)
  rw [stamps, entryStamps_eq, List.mem_cons, mem_visible]
  exact .inr ⟨_, hput, plain, h⟩

/-- What becomes of an entry is seen in the directory. -/
theorem mem_stamps_map_put (plain : Walk.isHidden name = false) {changed : Except Error Node}
    (h : changed.map (fun n => directory (Keyed.put name n entries) time) = .ok n')
    (hchanged : ∀ inner, changed = .ok inner → now ∈ inner.stamps) : now ∈ n'.stamps := by
  cases changed with
  | error e => cases h
  | ok inner =>
      cases h
      exact mem_stamps_put plain (hchanged inner rfl)

theorem mem_stamps_write {change : String → String}
    (plain : ∀ name ∈ p, Walk.isHidden name = false) (h : write now change p n = .ok n') :
    now ∈ n'.stamps := by
  induction p generalizing n n' with
  | nil =>
      cases n with
      | file content m =>
          cases h
          exact modified_mem_stamps _
      | directory entries m => cases h
  | cons name rest ih =>
      rw [List.forall_mem_cons] at plain
      cases n with
      | file content m => cases h
      | directory entries m =>
          rw [write] at h
          split at h
          · cases h
          · split at h
            · exact mem_stamps_map_put plain.1 h fun _ => ih plain.2
            · split at h
              · cases h
                exact mem_stamps_put plain.1 (modified_mem_stamps _)
              · cases h

theorem mem_stamps_touch (plain : ∀ name ∈ p, Walk.isHidden name = false)
    (h : touch now p n = .ok n') : now ∈ n'.stamps := by
  induction p generalizing n n' with
  | nil =>
      cases n <;> cases h <;> exact modified_mem_stamps _
  | cons name rest ih =>
      rw [List.forall_mem_cons] at plain
      cases n with
      | file content m => cases h
      | directory entries m =>
          rw [touch] at h
          split at h
          · cases h
          · split at h
            · exact mem_stamps_map_put plain.1 h fun _ => ih plain.2
            · cases h

theorem mem_stamps_remove (hne : p ≠ []) (plain : ∀ name ∈ p, Walk.isHidden name = false)
    (h : remove now p n = .ok n') : now ∈ n'.stamps := by
  induction p generalizing n n' with
  | nil => exact absurd rfl hne
  | cons name rest ih =>
      rw [List.forall_mem_cons] at plain
      cases n with
      | file content m => cases h
      | directory entries m =>
          rw [remove] at h
          split at h
          · cases h
          · split at h
            · split at h
              · cases h
                exact modified_mem_stamps _
              · next hrest =>
                exact mem_stamps_map_put plain.1 h fun _ => ih (by simpa using hrest) plain.2
            · cases h

theorem mem_stamps_makeDirectories (hmissing : n.has p = false)
    (plain : ∀ name ∈ p, Walk.isHidden name = false) (h : makeDirectories now p n = .ok n') :
    now ∈ n'.stamps := by
  induction p generalizing n n' with
  | nil => cases hmissing
  | cons name rest ih =>
      rw [List.forall_mem_cons] at plain
      cases n with
      | file content m => cases h
      | directory entries m =>
          rw [makeDirectories] at h
          split at h
          · cases h
          · next hlength =>
            split at h
            · next inner hinner =>
              rw [has, find, if_neg hlength, hinner] at hmissing
              exact mem_stamps_map_put plain.1 h fun _ => ih hmissing plain.2
            · cases h
              exact modified_mem_stamps _

end Operations

/-- A tree after an operation at some time, on names that are not hidden: a file is written, a node
is removed or gets a modification time, or a directory is made. -/
inductive Edited (now : Nat) : Node → Node → Prop where
  | write {n n' : Node} {p : Path} (change : String → String)
      (plain : ∀ name ∈ p, Walk.isHidden name = false) (h : n.write now change p = .ok n') :
      Edited now n n'
  | remove {n n' : Node} {p : Path} (hne : p ≠ [])
      (plain : ∀ name ∈ p, Walk.isHidden name = false) (h : n.remove now p = .ok n') :
      Edited now n n'
  | touch {n n' : Node} {p : Path} (plain : ∀ name ∈ p, Walk.isHidden name = false)
      (h : n.touch now p = .ok n') : Edited now n n'
  | makeDirectories {n n' : Node} {p : Path} (hmissing : n.has p = false)
      (plain : ∀ name ∈ p, Walk.isHidden name = false) (h : n.makeDirectories now p = .ok n') :
      Edited now n n'

/-- An operation leaves its time in the tree. -/
theorem Edited.mem_stamps {now : Nat} {n n' : Node} (h : n.Edited now n') : now ∈ n'.stamps := by
  cases h with
  | write change plain h => exact mem_stamps_write plain h
  | remove hne plain h => exact mem_stamps_remove hne plain h
  | touch plain h => exact mem_stamps_touch plain h
  | makeDirectories hmissing plain h => exact mem_stamps_makeDirectories hmissing plain h

/-- After an operation a tree outdates every state in which all is older. -/
theorem Edited.outdates {now : Nat} {n between n' : Node} (h : between.Edited now n')
    (hearlier : ∀ path inner, n.Leads path inner → inner.modified < now) : n'.Outdates n := by
  obtain ⟨path, inner, hleads, rfl⟩ := Node.mem_stamps.mp h.mem_stamps
  exact ⟨path, inner, hleads, hearlier⟩

end Files.Node

end LiveVisuals
