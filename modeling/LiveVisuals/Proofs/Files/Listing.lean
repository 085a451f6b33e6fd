import Mathlib.Data.List.Perm.Basic
import LiveVisuals.Proofs.Files.Stamps

/-!
# What a walk finds does not depend on how directories are listed

A walk takes the entries of a directory in the order in which they are listed. The files that it
finds are those that names which are not hidden lead to, and another listing of the same tree
gives the same files and the same modification times, in another order.

Main definitions:

- {lit}`Files.Node.Leads`: names that are not hidden lead from a node to another.
- {lit}`Files.Node.Relisted`: the same tree with its directories listed in another order.
- {lit}`Files.Node.places`: the paths to the files in a tree that walks find.

Main results:

- Theorem {lit}`Files.Node.mem_places`: those are the paths that lead to a file.
- Theorem {lit}`Files.Node.mem_stamps`: modification times are those of nodes that paths lead to.
- Theorem {lit}`Files.Node.Relisted.places_perm`, {lit}`Files.Node.Relisted.stamps_perm`: another
  listing has the same files and modification times.
- Theorem {lit}`Walk.places_visitAll`: a walk finds the files of a tree.
- Theorem {lit}`Scan.ofNode_directory`: a scan of a directory, from its files and modification
  times.
-/

namespace LiveVisuals

namespace Files.Node

/-- Induction on trees: what holds of all entries of a directory holds of the directory. -/
theorem induct {P : Node → Prop} (file : ∀ content time, P (.file content time))
    (directory : ∀ entries time, (∀ e ∈ entries, P e.2) → P (.directory entries time)) :
    ∀ n, P n
  | .file content time => file content time
  | .directory entries time => directory entries time fun e _ => induct file directory e.2
termination_by n => sizeOf n
decreasing_by
  obtain ⟨name, inner⟩ := e
  have hentry : sizeOf (name, inner) < sizeOf entries := List.sizeOf_lt_of_mem ‹_›
  simp only [Prod.mk.sizeOf_spec, Node.directory.sizeOf_spec] at hentry ⊢
  omega

/-! ## Paths of names that are not hidden -/

/-- Names that are not hidden lead from a node to another. -/
inductive Leads : Node → Path → Node → Prop where
  | here (n : Node) : Leads n [] n
  | step {entries : List (String × Node)} {time : Nat} {name : String} {inner n : Node}
      {path : Path} (listed : (name, inner) ∈ entries) (plain : Walk.isHidden name = false)
      (rest : Leads inner path n) : Leads (.directory entries time) (name :: path) n

theorem leads_file {content : String} {time : Nat} {path : Path} {n : Node} :
    (file content time).Leads path n ↔ path = [] ∧ n = .file content time := by
  constructor
  · rintro ⟨⟩
    exact ⟨rfl, rfl⟩
  · rintro ⟨rfl, rfl⟩
    exact .here _

theorem leads_directory {entries : List (String × Node)} {time : Nat} {path : Path} {n : Node} :
    (directory entries time).Leads path n ↔
      (path = [] ∧ n = .directory entries time) ∨
        ∃ e ∈ entries, Walk.isHidden e.1 = false ∧
          ∃ rest, path = e.1 :: rest ∧ e.2.Leads rest n := by
  constructor
  · intro h
    cases h with
    | here => exact .inl ⟨rfl, rfl⟩
    | step listed plain rest => exact .inr ⟨_, listed, plain, _, rfl, rest⟩
  · rintro (⟨rfl, rfl⟩ | ⟨e, listed, plain, rest, rfl, h⟩)
    · exact .here _
    · exact .step listed plain h

mutual

/-- The paths to the files in a tree, hidden entries passed over. -/
def places : Node → List Path
  | .file .. => [[]]
  | .directory entries _ => entryPlaces entries

/-- The paths to the files in directory entries, hidden ones passed over. -/
def entryPlaces : List (String × Node) → List Path
  | [] => []
  | (name, n) :: rest =>
      if Walk.isHidden name then entryPlaces rest
      else (places n).map (name :: ·) ++ entryPlaces rest

end

/-- What entries that are not hidden hold. -/
def visible {β : Type} (entries : List (String × Node)) (part : String → Node → List β) : List β :=
  entries.flatMap fun e => if Walk.isHidden e.1 then [] else part e.1 e.2

theorem mem_visible {β : Type} {entries : List (String × Node)} {part : String → Node → List β}
    {b : β} :
    b ∈ visible entries part ↔ ∃ e ∈ entries, Walk.isHidden e.1 = false ∧ b ∈ part e.1 e.2 := by
  rw [visible, List.mem_flatMap]
  refine exists_congr fun e => and_congr_right fun _ => ?_
  by_cases hidden : Walk.isHidden e.1 <;> simp [hidden]

theorem entryPlaces_eq (entries : List (String × Node)) :
    entryPlaces entries = visible entries fun name n => n.places.map (name :: ·) := by
  induction entries with
  | nil => rfl
  | cons e rest ih =>
      by_cases hidden : Walk.isHidden e.1 <;>
        simp [entryPlaces, visible, hidden, ih]

theorem entryStamps_eq (entries : List (String × Node)) :
    entryStamps entries = visible entries fun _ n => n.stamps := by
  induction entries with
  | nil => rfl
  | cons e rest ih =>
      by_cases hidden : Walk.isHidden e.1 <;>
        simp [entryStamps, visible, hidden, ih]

/-- The files of a tree are what its paths lead to. -/
theorem mem_places {n : Node} {path : Path} :
    path ∈ n.places ↔ ∃ content time, n.Leads path (.file content time) := by
  induction n using induct generalizing path with
  | file content time => simp [places, leads_file]
  | directory entries time ih =>
      rw [places, entryPlaces_eq, mem_visible]
      constructor
      · rintro ⟨e, he, plain, hpath⟩
        obtain ⟨rest, hrest, rfl⟩ := List.mem_map.mp hpath
        obtain ⟨content, modified, hleads⟩ := (ih e he).mp hrest
        exact ⟨content, modified, .step he plain hleads⟩
      · rintro ⟨content, modified, hleads⟩
        obtain ⟨-, hfile⟩ | ⟨e, he, plain, rest, rfl, hrest⟩ := leads_directory.mp hleads
        · cases hfile
        · exact ⟨e, he, plain, List.mem_map_of_mem ((ih e he).mpr ⟨content, modified, hrest⟩)⟩

/-- The modification times in a tree are those of the nodes that paths lead to. -/
theorem mem_stamps {n : Node} {time : Nat} :
    time ∈ n.stamps ↔ ∃ path inner, n.Leads path inner ∧ inner.modified = time := by
  induction n using induct with
  | file content modified => simp [stamps, leads_file, Node.modified, eq_comm]
  | directory entries modified ih =>
      rw [stamps, List.mem_cons, entryStamps_eq, mem_visible]
      constructor
      · rintro (rfl | ⟨e, he, plain, htime⟩)
        · exact ⟨[], _, .here _, rfl⟩
        · obtain ⟨path, inner, hleads, hmodified⟩ := (ih e he).mp htime
          exact ⟨e.1 :: path, inner, .step he plain hleads, hmodified⟩
      · rintro ⟨path, inner, hleads, rfl⟩
        obtain ⟨-, rfl⟩ | ⟨e, he, plain, rest, rfl, hrest⟩ := leads_directory.mp hleads
        · exact .inl rfl
        · exact .inr ⟨e, he, plain, (ih e he).mpr ⟨rest, inner, hrest, rfl⟩⟩

/-- No modification time is later than the latest. -/
theorem le_latestOf {times : List Nat} {time : Nat} (h : time ∈ times) :
    time ≤ latestOf times := by
  induction times with
  | nil => cases h
  | cons first times ih =>
      rw [latestOf_cons]
      rcases List.mem_cons.mp h with rfl | h
      · exact Nat.le_max_left _ _
      · exact Nat.le_trans (ih h) (Nat.le_max_right _ _)

/-- What a path leads to was not modified later than the latest modification. -/
theorem Leads.modified_le {n inner : Node} {path : Path} (h : n.Leads path inner) :
    inner.modified ≤ n.latest :=
  le_latestOf (mem_stamps.mpr ⟨path, inner, h, rfl⟩)

/-! ## Other listings -/

/-- The same tree, with its directories listed in another order. -/
inductive Relisted : Node → Node → Prop where
  | refl (n : Node) : Relisted n n
  | permute {entries entries' : List (String × Node)} (time : Nat) (h : entries.Perm entries') :
      Relisted (.directory entries time) (.directory entries' time)
  | inside {n n' : Node} (before after : List (String × Node)) (name : String) (time : Nat)
      (h : Relisted n n') :
      Relisted (.directory (before ++ (name, n) :: after) time)
        (.directory (before ++ (name, n') :: after) time)
  | trans {n n' n'' : Node} (h : Relisted n n') (h' : Relisted n' n'') : Relisted n n''

/-- What is gathered from visible entries is the same for every listing, but for the order. -/
theorem Relisted.perm {β : Type} (gather : Node → List β) (own : Nat → List β)
    (part : String → List β → List β)
    (hgather : ∀ entries time, gather (.directory entries time) =
      own time ++ visible entries fun name n => part name (gather n))
    (hpart : ∀ name (bs bs' : List β), bs.Perm bs' → (part name bs).Perm (part name bs'))
    {n n' : Node} (h : n.Relisted n') : (gather n).Perm (gather n') := by
  -- on how the listings differ: what is ahead of a relisted entry, and behind it, stays in place
  induction h with
  | refl => exact .refl _
  | permute time h =>
      rw [hgather, hgather]
      exact (h.flatMap_right _).append_left _
  | @inside n n' before after name time _ ih =>
      rw [hgather, hgather]
      refine List.Perm.append_left _ ?_
      simp only [visible, List.flatMap_append, List.flatMap_cons]
      refine List.Perm.append_left _ (List.Perm.append_right _ ?_)
      by_cases hidden : Walk.isHidden name
      · simp [hidden]
      · simpa [hidden] using hpart name _ _ ih
  | trans _ _ ih ih' => exact ih.trans ih'

/-- Another listing of a tree has the same files. -/
theorem Relisted.places_perm {n n' : Node} (h : n.Relisted n') : n.places.Perm n'.places := by
  refine h.perm places (fun _ => []) (fun name => .map (name :: ·)) (fun entries time => ?_)
    (fun name bs bs' hperm => hperm.map _)
  rw [places, entryPlaces_eq, List.nil_append]

/-- Another listing of a tree has the same modification times. -/
theorem Relisted.stamps_perm {n n' : Node} (h : n.Relisted n') : n.stamps.Perm n'.stamps := by
  refine h.perm stamps (fun time => [time]) (fun _ bs => bs) (fun entries time => ?_)
    (fun name bs bs' hperm => hperm)
  rw [stamps, entryStamps_eq, List.singleton_append]

/-- Another listing of a tree has the same latest modification. -/
theorem Relisted.latest_eq {n n' : Node} (h : n.Relisted n') : n.latest = n'.latest := by
  unfold latest latestOf
  exact h.stamps_perm.foldr_eq 0

end Files.Node

/-! ## Walks -/

theorem FoundFile.place_injective : Function.Injective FoundFile.place := by
  rintro ⟨name, directory⟩ ⟨name', directory'⟩ h
  obtain ⟨rfl, hname⟩ := List.append_inj' h rfl
  cases hname
  rfl

/-- Whatever path is not empty is the place of a file. -/
theorem FoundFile.exists_place {path : Files.Path} (h : path ≠ []) :
    ∃ f : FoundFile, f.place = path :=
  ⟨⟨path.getLast h, path.dropLast⟩, List.dropLast_append_getLast h⟩

namespace Walk

open Files

mutual

/-- A walk finds the files of an entry. -/
theorem places_visit (w : Walk) (directory : Path) (name : String) (n : Node) :
    (visit w directory name n).files.map FoundFile.place =
      w.files.map FoundFile.place ++ n.places.map fun path => directory ++ name :: path := by
  cases n with
  | file content time => simp [visit, Node.places, FoundFile.place]
  | directory entries time =>
      rw [visit, places_visitAll, Node.places]
      simp [meet]

/-- A walk finds the files of directory entries. -/
theorem places_visitAll (w : Walk) (directory : Path) (entries : List (String × Node)) :
    (visitAll w directory entries).files.map FoundFile.place =
      w.files.map FoundFile.place ++ (Node.entryPlaces entries).map (directory ++ ·) := by
  cases entries with
  | nil => simp [visitAll, Node.entryPlaces]
  | cons entry rest =>
      obtain ⟨name, n⟩ := entry
      by_cases hidden : isHidden name
      · rw [visitAll, if_pos hidden, places_visitAll, Node.entryPlaces, if_pos hidden]
      · rw [visitAll, if_neg hidden, places_visitAll, places_visit, Node.entryPlaces,
          if_neg hidden, List.map_append, List.map_map, List.append_assoc]
        rfl

end

/-- A walk through a directory finds the files that paths lead to. -/
theorem places_directory (entries : List (String × Node)) (time : Nat) :
    (visitAll (start.meet time) [] entries).files.map FoundFile.place =
      (Node.directory entries time).places := by
  simp [places_visitAll, meet, start, Node.places]

end Walk

/-- A scan arranges the files that a walk finds, in some order, and its signature tells how many
they are and the latest modification. -/
theorem Scan.ofNode_directory (root : String) (entries : List (String × Files.Node)) (time : Nat) :
    ∃ files : List FoundFile,
      files.Perm (Walk.visitAll (Walk.start.meet time) [] entries).files ∧
        ofNode root (.ok (.directory entries time)) =
          .ok ⟨arrange (files.filterMap (descriptor? root)),
            .tree (Files.Node.directory entries time).places.length
              (Files.Node.directory entries time).latest⟩ := by
  let w := Walk.visitAll (Walk.start.meet time) [] entries
  have hperm : (w.files.mergeSort fun f g => !g.place.lex f.place (· < ·)).Perm w.files :=
    List.mergeSort_perm _ _
  refine ⟨_, hperm, ?_⟩
  rw [← Walk.places_directory, ← Walk.latest_directory, List.length_map, ← hperm.length_eq]
  rfl

end LiveVisuals
