import Mathlib.Data.String.Basic
import LiveVisuals.Files.Tree

/-!
# What file operations leave alone

Files that are kept side by side in one directory do not disturb each other: writing one of them
leaves the others as they are, also if the directory has to be made first. Making a directory
changes nothing in directories that are there, and a new one holds nothing but directories.

Main definitions:

- {lit}`Files.Node.at?`: the node at a path, if there is one.

Main results:

- Theorem {lit}`Files.Path.join_of_name`: a text without slashes is one name of a path.
- Theorem {lit}`Files.Node.at?_makeDirectories`: making a directory leaves alone what it holds.
- Theorem {lit}`Files.Node.find_write_of_ne`: writing a file leaves others in the directory alone.
- Theorem {lit}`Files.Node.at?_writeThrough_of_ne`: the same if the directory is made first.
-/

namespace LiveVisuals.Files

/-! ## Names in paths -/

namespace Path

open String in
/-- A text stays in one piece from a place after which it has no slash. -/
theorem splitOnAux_of_not_mem (read rest : List Char) (h : '/' ∉ rest) :
    splitOnAux (ofList (read ++ rest)) "/" 0 ⟨utf8Len read⟩ 0 [] = [ofList (read ++ rest)] := by
  induction rest generalizing read with
  | nil =>
      have hend : Pos.Raw.atEnd (ofList (read ++ [])) ⟨utf8Len read⟩ = true :=
        (atEnd_of_valid read []).mpr rfl
      have hextract := extract_of_valid [] read []
      rw [splitOnAux, if_pos hend]
      simpa using hextract
  | cons c rest ih =>
      have hgoes : ¬ Pos.Raw.atEnd (ofList (read ++ c :: rest)) ⟨utf8Len read⟩ = true := by
        rw [atEnd_of_valid]
        exact List.cons_ne_nil _ _
      have hget : Pos.Raw.get (ofList (read ++ c :: rest)) ⟨utf8Len read⟩ = c :=
        get_of_valid read (c :: rest)
      have hslash : Pos.Raw.get "/" 0 = '/' := by decide
      have hother : ¬ (c == '/') = true := by
        intro heq
        exact h (List.mem_cons.mpr (.inl (eq_of_beq heq).symm))
      have hback : Pos.Raw.unoffsetBy ⟨utf8Len read⟩ 0 = ⟨utf8Len read⟩ := rfl
      have hread : read ++ c :: rest = (read ++ [c]) ++ rest := by simp
      have hlength : utf8Len (read ++ [c]) = utf8Len read + c.utf8Size := by simp
      have hafter := ih (read ++ [c]) fun hmem => h (List.mem_cons_of_mem _ hmem)
      rw [splitOnAux, if_neg hgoes, hget, hslash, if_neg hother, hback, next_of_valid, ← hlength,
        hread]
      exact hafter

/-- A text without slashes is one name. -/
theorem splitOn_of_not_mem {name : String} (h : '/' ∉ name.toList) :
    name.splitOn "/" = [name] := by
  have hsplit := splitOnAux_of_not_mem [] name.toList h
  rw [List.nil_append, String.ofList_toList] at hsplit
  exact hsplit

/-- A name leads to an entry of a directory, unless it stands for that or for the one around. -/
theorem join_of_name (base : Path) {name : String} (h : '/' ∉ name.toList) (hempty : name ≠ "")
    (hdot : name ≠ ".") (hdots : name ≠ "..") : base.join name = base ++ [name] := by
  rw [join, splitOn_of_not_mem h, List.foldl_cons, List.foldl_nil, step,
    if_neg (not_or.mpr ⟨hempty, hdot⟩), if_neg hdots]

end Path

namespace Node

/-! ## Directories -/

/-- The node at a path, if there is one. -/
def at? (p : Path) (root : Node) : Option Node := (find p root).toOption

theorem has_eq_isSome_at? (p : Path) (root : Node) : root.has p = (root.at? p).isSome := by
  unfold has at?
  split <;> simp_all [Except.toOption]

/-- What is behind an entry of a directory. -/
theorem at?_cons (name : String) (rest : Path) (entries : List (String × Node)) (m : Nat) :
    at? (name :: rest) (directory entries m) =
      if longestName < name.utf8ByteSize then none
      else (Keyed.get? name entries).bind (at? rest) := by
  rw [at?, find]
  split
  · rfl
  · cases Keyed.get? name entries <;> rfl

/-- Directories that have just been made hold no other entries. -/
theorem at?_wrap (now : Nat) (dir : Path) (name : String) (rest : Path) :
    (wrap now (emptyDirectory now) dir).at? (dir ++ name :: rest) = none := by
  induction dir with
  | nil =>
      rw [List.nil_append, wrap, emptyDirectory, at?_cons, Keyed.get?]
      split <;> rfl
  | cons d dir ih =>
      rw [List.cons_append, wrap, at?_cons]
      split
      · rfl
      · simpa [Keyed.get?] using ih

/-- Making a directory leaves alone what it holds. -/
theorem at?_makeDirectories {now : Nat} {dir : Path} {root root' : Node}
    (h : makeDirectories now dir root = .ok root') (name : String) (rest : Path) :
    root'.at? (dir ++ name :: rest) = root.at? (dir ++ name :: rest) := by
  induction dir generalizing root root' with
  | nil =>
      cases root with
      | file content m => cases h
      | directory entries m =>
          cases h
          rfl
  | cons d dir ih =>
      cases root with
      | file content m => cases h
      | directory entries m =>
          rw [makeDirectories] at h
          split at h
          · cases h
          · next hlength =>
            split at h
            · next n hn =>
              cases hmade : makeDirectories now dir n with
              | error e =>
                  rw [hmade] at h
                  cases h
              | ok n' =>
                  rw [hmade] at h
                  cases h
                  rw [List.cons_append, at?_cons, at?_cons, Keyed.get?_put_self, hn]
                  simp only [Option.bind_some, ih hmade]
            · next hnone =>
              cases h
              rw [List.cons_append, at?_cons, at?_cons, Keyed.get?_put_self, hnone]
              simp [at?_wrap]

/-! ## Files side by side -/

/-- Writing a file leaves what is beside it in its directory alone. -/
theorem find_write_of_ne {now : Nat} {change : String → String} {dir : Path} {name other : String}
    (hne : other ≠ name) {root root' : Node}
    (h : write now change (dir ++ [name]) root = .ok root') :
    find (dir ++ [other]) root' = find (dir ++ [other]) root := by
  induction dir generalizing root root' with
  | nil =>
      cases root with
      | file content m => cases h
      | directory entries m =>
          rw [List.nil_append, write] at h
          split at h
          · cases h
          · have hput (n : Node) : Keyed.get? other (Keyed.put name n entries) =
                Keyed.get? other entries := Keyed.get?_put_of_ne n entries hne
            split at h
            · next n hn =>
              cases n with
              | file old time =>
                  cases h
                  simp only [List.nil_append, find, hput]
              | directory inner time => cases h
            · cases h
              simp only [List.nil_append, find, hput]
  | cons d dir ih =>
      cases root with
      | file content m => cases h
      | directory entries m =>
          rw [List.cons_append, write] at h
          split at h
          · cases h
          · split at h
            · next n hn =>
              cases hwrite : write now change (dir ++ [name]) n with
              | error e =>
                  rw [hwrite] at h
                  cases h
              | ok n' =>
                  rw [hwrite] at h
                  cases h
                  simp only [List.cons_append, find, Keyed.get?_put_self, hn, ih hwrite]
            · simp at h

/-- Writing a file whose directory is made first leaves what is beside it alone. -/
theorem at?_write_of_ne {now : Nat} {change : String → String} {dir : Path} {name other : String}
    (hne : other ≠ name) {root made root' : Node} (hmade : makeDirectories now dir root = .ok made)
    (h : write now change (dir ++ [name]) made = .ok root') :
    root'.at? (dir ++ [other]) = root.at? (dir ++ [other]) := by
  rw [at?, find_write_of_ne hne h]
  exact at?_makeDirectories hmade other []

/-- A file that is put among others leaves them alone. -/
theorem at?_writeThrough_of_ne {now : Nat} {content : String} {dir : Path} {name other : String}
    (hne : other ≠ name) {root root' : Node}
    (h : root.writeThrough now content (dir ++ [name]) = .ok root') :
    root'.at? (dir ++ [other]) = root.at? (dir ++ [other]) := by
  rw [writeThrough, List.dropLast_concat] at h
  cases hmade : makeDirectories now dir root with
  | error e =>
      rw [hmade] at h
      cases h
  | ok made =>
      rw [hmade] at h
      exact at?_write_of_ne hne hmade h

end Node

end LiveVisuals.Files
