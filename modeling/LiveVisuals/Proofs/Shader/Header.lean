import LiveVisuals.Proofs.Schema.Accepted
import LiveVisuals.Proofs.Text.Lines
import LiveVisuals.Shader.Transpile

/-!
# What a header leaves

A source is its header comment followed by its body, and the line breaks of the first are
counted. Since the comment ends with a slash no line break is cut in two, so the lines of the
body are lines of the source. The names of declared inputs are identifiers, and no two of them
are the same, whatever the header says.

Main results:

- Theorem {lit}`ShaderSource.exists_head`: what stands ahead of the body.
- Theorem {lit}`ShaderSource.line_of_body`: the lines of the body in the source.
- Theorem {lit}`ShaderSource.isIdentifier_of_mem_inputs`: inputs are named by identifiers.
- Theorem {lit}`ShaderSource.nodup_names_inputs`: inputs have different names.
-/

namespace LiveVisuals

namespace Header

/-- The body is what follows the header comment, which ends with a slash. -/
theorem eq_of_locate? {cs json body : List Char} (h : locate? cs = some (json, body)) :
    ∃ head, cs = head ++ body ∧ head.getLast? = some '/' := by
  simp only [locate?, Option.bind_eq_bind, Option.bind_eq_some_iff] at h
  obtain ⟨inside, hopen, ⟨inner, rest⟩, hclose, hbody⟩ := h
  obtain ⟨-, rfl⟩ : _ ∧ rest = body := by
    split at hbody
    · simpa using hbody
    · cases hbody
  have hblanks : cs = cs.takeWhile Text.isBlank ++ Text.skipBlanks cs :=
    List.takeWhile_append_dropWhile.symm
  rw [Text.strip?_eq_some_iff.mp hopen, Shader.eq_of_untilClose? hclose] at hblanks
  refine ⟨cs.takeWhile Text.isBlank ++ ['/', '*'] ++ (inner ++ ['*', '/']), ?_, ?_⟩
  · simpa using hblanks
  · rw [List.getLast?_append_of_ne_nil _ (by simp), List.getLast?_append_of_ne_nil _ (by simp)]
    rfl

variable {α : Type}

/-- Adding what became of an entry adds at most its declaration. -/
theorem mem_inputs_add {g : Gathered α} {o : Outcome α} {d : InputDeclaration α}
    (h : d ∈ (g.add o).inputs) : d ∈ g.inputs ∨ ∃ remark, o = .declared d remark := by
  cases o with
  | skipped reason => exact .inl h
  | declared input remark =>
      rcases List.mem_append.mp h with h | h
      · exact .inl h
      · rw [List.mem_singleton.mp h]
        exact .inr ⟨remark, rfl⟩

variable [Scalar α]

/-- An accepted entry is named by an identifier. -/
theorem isIdentifier_of_accepted {raw : Option (Json α)} {e : Entry α}
    (h : Entry.schema raw = .accepted e) : Text.isIdentifier e.name.toList := by
  obtain ⟨fs, -, h⟩ := Schema.object_eq_accepted.mp h
  simp only [Checked.seq_eq_accepted, Checked.map_eq_accepted, Schema.field,
    Checked.under_eq_accepted] at h
  obtain ⟨_, _, ⟨_, _, ⟨_, _, ⟨_, _, ⟨_, _, ⟨name, hname, rfl⟩, -, rfl⟩, -, rfl⟩, -, rfl⟩, -,
    rfl⟩, -, rfl⟩ := h
  exact (Schema.satisfying_eq_accepted.mp hname).2 identifier (by simp)

/-- A declaration comes of an accepted entry of a supported type whose name is new. -/
theorem exists_entry_of_declared {taken : List String} {index : Nat} {raw : Json α}
    {d : InputDeclaration α} {remark : Option String}
    (h : readEntry taken index raw = .declared d remark) :
    ∃ e type, Entry.schema (some raw) = .accepted e ∧ e.name ∉ taken ∧
      e.declare index type = .declared d remark := by
  rw [readEntry] at h
  cases hchecked : Entry.schema (some raw) with
  | refused is => simp [hchecked] at h
  | accepted e =>
      simp only [hchecked] at h
      split at h
      · cases h
      · next type _ =>
        split at h
        · cases h
        · next hnew => exact ⟨e, type, rfl, by simpa using hnew, h⟩

/-- A declaration that comes of an entry is named by an identifier. -/
theorem isIdentifier_of_declared {taken : List String} {index : Nat} {raw : Json α}
    {d : InputDeclaration α} {remark : Option String}
    (h : readEntry taken index raw = .declared d remark) : Text.isIdentifier d.name.toList := by
  obtain ⟨e, type, haccepted, -, hdeclare⟩ := exists_entry_of_declared h
  cases hdeclare
  exact isIdentifier_of_accepted haccepted

/-- What holds of every declaration that comes of an entry holds of all inputs. -/
theorem forall_mem_readEntries {P : InputDeclaration α → Prop}
    (hP : ∀ {taken : List String} {index : Nat} {raw : Json α} {d : InputDeclaration α}
      {remark : Option String}, readEntry taken index raw = .declared d remark → P d)
    {g : Gathered α} (hg : ∀ d ∈ g.inputs, P d) (index : Nat) (raws : List (Json α)) :
    ∀ d ∈ (readEntries g index raws).inputs, P d := by
  induction raws generalizing g index with
  | nil => exact hg
  | cons raw rest ih =>
      refine ih ?_ (index + 1)
      intro d hd
      rcases mem_inputs_add hd with hd | ⟨remark, hdeclared⟩
      · exact hg d hd
      · exact hP hdeclared

/-- No name is declared twice. -/
theorem nodup_names_readEntries {g : Gathered α} (hg : (g.inputs.map (·.name)).Nodup)
    (index : Nat) (raws : List (Json α)) :
    ((readEntries g index raws).inputs.map (·.name)).Nodup := by
  induction raws generalizing g index with
  | nil => exact hg
  | cons raw rest ih =>
      refine ih ?_ (index + 1)
      cases houtcome : readEntry (g.inputs.map (·.name)) index raw with
      | skipped reason => exact hg
      | declared d remark =>
          obtain ⟨e, type, -, hnew, hdeclare⟩ := exists_entry_of_declared houtcome
          cases hdeclare
          rw [Gathered.add, List.map_append, List.nodup_append]
          refine ⟨hg, List.pairwise_singleton _ _, ?_⟩
          rintro name hname other hother rfl
          obtain rfl : name = e.name := List.mem_singleton.mp hother
          exact hnew hname

end Header

namespace ShaderSource

variable {α : Type} [Scalar α]

/-- A source that was read is plain text, or a header that could be read. -/
theorem read_cases (dialect : Dialect) (raw : String) :
    (read (α := α) dialect raw).1 = .glsl raw ∨
      ∃ h, Header.read raw = .ok h ∧ (read (α := α) dialect raw).1 = .isf h := by
  cases dialect with
  | glsl => exact .inl rfl
  | isf =>
      rw [read]
      cases Header.read (α := α) raw with
      | error e => exact .inl rfl
      | ok h => exact .inr ⟨h, rfl, rfl⟩

/-- A header that could be read is absent, or it follows a header comment. -/
theorem header_cases {raw : String} {h : Header α} (hread : Header.read raw = .ok h) :
    h = Header.absent raw ∨
      ∃ json body fields, Header.locate? raw.toList = some (json, body) ∧
        h = Header.ofFields raw.toList body fields := by
  rw [Header.read] at hread
  cases hlocate : Header.locate? raw.toList with
  | none =>
      simp only [hlocate, Except.ok.injEq] at hread
      exact .inl hread.symm
  | some found =>
      obtain ⟨json, body⟩ := found
      simp only [hlocate] at hread
      split at hread
      · cases hread
      · split at hread
        · next fields _ => exact .inr ⟨json, body, fields, rfl, by cases hread; rfl⟩
        · cases hread

variable {dialect : Dialect} {raw : String} {source : ShaderSource α}

/-- A source is something that does not end with a carriage return, with as many line breaks as
are counted, followed by the body. -/
theorem exists_head (hread : (read dialect raw).1 = source) :
    ∃ head, raw.toList = head ++ source.body.toList ∧ head.getLast? ≠ some '\r' ∧
      source.bodyLineOffset = Text.lineBreaks head := by
  rcases read_cases (α := α) dialect raw with hsource | ⟨h, hheader, hsource⟩
  · obtain rfl := hread.symm.trans hsource
    exact ⟨[], rfl, by simp, rfl⟩
  · obtain rfl := hread.symm.trans hsource
    rcases header_cases hheader with rfl | ⟨json, body, fields, hlocate, rfl⟩
    · exact ⟨[], rfl, by simp, rfl⟩
    · obtain ⟨head, hraw, hend⟩ := Header.eq_of_locate? hlocate
      have hbody : (isf (Header.ofFields raw.toList body fields)).body.toList = body :=
        String.toList_ofList
      have hlength : raw.toList.length - body.length = head.length := by simp [hraw]
      refine ⟨head, by rw [hbody, hraw], by simp [hend], ?_⟩
      change Text.lineBreaks (raw.toList.take (raw.toList.length - body.length)) = _
      rw [hlength, hraw, List.take_left]

/-- The lines of the body are lines of the source; what stands ahead of the body on its first
line is cut off. -/
theorem line_of_body (hread : (read dialect raw).1 = source) {i : Nat} {l : List Char}
    (hl : (Text.lines source.body.toList)[i]? = some l) :
    ∃ ahead, (Text.lines raw.toList)[source.bodyLineOffset + i]? = some (ahead ++ l) ∧
      (0 < i → ahead = []) := by
  obtain ⟨head, hraw, hend, hoffset⟩ := exists_head hread
  obtain ⟨before, last, hhead⟩ := List.eq_nil_or_concat (Text.lines head) |>.resolve_left
    (Text.lines_ne_nil head)
  obtain ⟨first, after, hbody⟩ := List.exists_cons_of_ne_nil
    (Text.lines_ne_nil source.body.toList)
  rw [List.concat_eq_append] at hhead
  have hlines := Text.lines_append hend hhead hbody
  have hbefore : source.bodyLineOffset = before.length := by
    rw [hoffset, Text.lineBreaks, hhead]
    simp
  rw [hraw, hlines, hbefore, List.getElem?_append_right (by omega), Nat.add_sub_cancel_left]
  rw [hbody] at hl
  cases i with
  | zero =>
      obtain rfl : first = l := by simpa using hl
      exact ⟨last, rfl, fun h => absurd h (Nat.lt_irrefl 0)⟩
  | succ i => exact ⟨[], by simpa using hl, fun _ => rfl⟩

/-- What holds of every declaration that comes of an entry holds of the inputs of a source. -/
theorem forall_mem_inputs {P : InputDeclaration α → Prop}
    (hP : ∀ {taken : List String} {index : Nat} {raw : Json α} {d : InputDeclaration α}
      {remark : Option String}, Header.readEntry taken index raw = .declared d remark → P d)
    (hread : (read dialect raw).1 = source) : ∀ d ∈ source.inputs, P d := by
  rcases read_cases (α := α) dialect raw with hsource | ⟨h, hheader, hsource⟩
  · obtain rfl := hread.symm.trans hsource
    simp [inputs]
  · obtain rfl := hread.symm.trans hsource
    rcases header_cases hheader with rfl | ⟨json, body, fields, hlocate, rfl⟩
    · simp [inputs, Header.absent]
    · exact Header.forall_mem_readEntries hP (by simp) 0 _

/-- Inputs have different names. -/
theorem nodup_names_inputs (hread : (read dialect raw).1 = source) :
    (source.inputs.map (·.name)).Nodup := by
  rcases read_cases (α := α) dialect raw with hsource | ⟨h, hheader, hsource⟩
  · obtain rfl := hread.symm.trans hsource
    simp [inputs]
  · obtain rfl := hread.symm.trans hsource
    rcases header_cases hheader with rfl | ⟨json, body, fields, hlocate, rfl⟩
    · simp [inputs, Header.absent]
    · exact Header.nodup_names_readEntries (by simp) 0 _

/-- Inputs are named by identifiers. -/
theorem isIdentifier_of_mem_inputs (hread : (read dialect raw).1 = source) :
    ∀ d ∈ source.inputs, Text.isIdentifier d.name.toList :=
  forall_mem_inputs Header.isIdentifier_of_declared hread

end ShaderSource

end LiveVisuals
