import LiveVisuals.Proofs.Shader.Presented
import LiveVisuals.Proofs.Text.Digits

/-!
# Entries of a header are taken one by one

An entry asks for a name if its shape is valid and its type is supported. The first entry that asks
for a name is declared, and every other entry leaves a warning with its index. What an entry of a
wrong shape says has no bearing on the others, so that entries which are skipped can as well be
taken out.

Main definitions:

- {lit}`Header.asked?`, {lit}`Header.declaredPlaces`: what entries ask for, and the places of those
  that are declared.
- {lit}`Header.AsksFor`: what an entry has to be like to ask for a name.
- {lit}`Header.TakenAs`: the values that declared defaults of the right shape stand for.
- {lit}`Header.DeclaredBy`: a declaration that says what an entry asks for.
- {lit}`Header.Holds`: a source starts with a header of the right shape.

Main results:

- Theorem {lit}`Header.fitDefault?_eq_some_iff`: a default is taken if and only if it has the right
  shape.
- Theorem {lit}`Header.filter_namesIndex_warnings`: the warnings with an index are those that its
  entry left.
- Theorem {lit}`Header.inputs_kept`: entries that are skipped can be taken out.
- Theorem {lit}`Header.entries_settled`: what becomes of the entries of a header.
-/

namespace LiveVisuals

namespace Text

/-- A text that does not start like a word has no occurrence of it there. -/
theorem contains_cons_of_ne {w c : Char} {word : List Char} (h : w ≠ c) (cs : List Char) :
    contains (w :: word) (c :: cs) = contains (w :: word) cs := by
  simp [contains, strip?, h]

/-- A word does not begin where its first character is missing. -/
theorem contains_append_of_not_mem {w : Char} {word front : List Char} (h : w ∉ front)
    (cs : List Char) : contains (w :: word) (front ++ cs) = contains (w :: word) cs := by
  induction front with
  | nil => rfl
  | cons c front ih =>
      rw [List.mem_cons, not_or] at h
      rw [List.cons_append, contains_cons_of_ne h.1, ih h.2]

/-- A text contains each of its parts. -/
theorem contains_append (front word rest : List Char) :
    contains word (front ++ (word ++ rest)) = true := by
  have hstrip : (strip? word (word ++ rest)).isSome := by
    rw [strip?_eq_some_iff.mpr rfl]
    rfl
  induction front with
  | nil =>
      cases word with
      | nil => cases rest <;> simp [contains, strip?]
      | cons w word =>
          rw [List.nil_append, List.cons_append, contains, ← List.cons_append, hstrip, Bool.true_or]
  | cons c front ih =>
      rw [List.cons_append, contains, ih, Bool.or_true]

end Text

namespace Header

/-! ## Warnings -/

/-- Whether a warning starts with an index. -/
def namesIndex (i : Nat) (warning : String) : Bool :=
  s!"INPUTS[{i}]".toList.isPrefixOf warning.toList

/-- Whether a warning says that something is skipped. -/
def saysSkipped (warning : String) : Bool := Text.includes warning " skipped: "

/-- What stands ahead of the first mark of two texts that start alike. -/
theorem eq_of_marked_start {mark : Char} {front front' rest : List Char}
    (h : front ++ [mark] <+: front' ++ mark :: rest) (hfront : mark ∉ front)
    (hfront' : mark ∉ front') : front = front' := by
  induction front generalizing front' with
  | nil =>
      cases front' with
      | nil => rfl
      | cons c front' =>
          obtain ⟨rfl, -⟩ := List.cons_prefix_cons.mp h
          simp at hfront'
  | cons c front ih =>
      rw [List.mem_cons, not_or] at hfront
      cases front' with
      | nil =>
          obtain ⟨rfl, -⟩ := List.cons_prefix_cons.mp h
          simp at hfront
      | cons c' front' =>
          rw [List.mem_cons, not_or] at hfront'
          obtain ⟨rfl, hrest⟩ := List.cons_prefix_cons.mp h
          rw [ih hrest hfront.2 hfront'.2]

/-- A warning that starts with an index names no other one. -/
theorem namesIndex_iff {i j : Nat} {warning : String} {rest : List Char}
    (h : warning.toList = s!"INPUTS[{i}]".toList ++ rest) : namesIndex j warning ↔ j = i := by
  have hbracket (n : Nat) : ']' ∉ (toString n).toList := fun hmem =>
    absurd (Text.isDigit_of_mem_toString hmem) (by decide)
  have htext (n : Nat) : s!"INPUTS[{n}]".toList =
      "INPUTS[".toList ++ ((toString n).toList ++ [']']) := by
    rw [String.toList_append, String.toList_append, List.append_assoc]
    rfl
  rw [namesIndex, List.isPrefixOf_iff_prefix, h]
  constructor
  · intro hprefix
    rw [htext, htext, List.append_assoc, List.prefix_append_right_inj, List.append_assoc] at hprefix
    exact Text.toString_nat_injective (eq_of_marked_start hprefix (hbracket j) (hbracket i))
  · rintro rfl
    exact List.prefix_append _ _

variable {α : Type}

/-- The warnings that an entry leaves. -/
def Outcome.notices : Outcome α → List String
  | .declared _ remark => remark.toList
  | .skipped reason => [reason]

/-- The declaration that an entry leaves. -/
def Outcome.input? : Outcome α → Option (InputDeclaration α)
  | .declared input _ => some input
  | .skipped _ => none

theorem inputs_add (g : Gathered α) (o : Outcome α) :
    (g.add o).inputs = g.inputs ++ o.input?.toList := by
  cases o <;> simp [Gathered.add, Outcome.input?]

theorem warnings_add (g : Gathered α) (o : Outcome α) :
    (g.add o).warnings = g.warnings ++ o.notices := by
  cases o <;> rfl

variable [Scalar α]

/-! ## What entries ask for -/

/-- The entries of a header object. -/
def entries (v : Json α) : List (Json α) := ((v.field? "INPUTS").bind Json.asArray?).getD []

/-- What an entry asks for if its shape is valid and its type is supported. -/
def asked? (raw : Json α) : Option (Entry α × InputType) :=
  match Entry.schema (some raw) with
  | .accepted e => (InputType.ofIsf? e.type).map (e, ·)
  | .refused _ => none

/-- The name that an entry asks for. -/
def askedName? (raw : Json α) : Option String := (asked? raw).map (·.1.name)

/-- Whether the entry at a place is the first one that asks for its name. -/
def isFirst (raws : List (Json α)) (i : Nat) : Bool :=
  match raws[i]?.bind askedName? with
  | some name => !((raws.take i).filterMap askedName?).contains name
  | none => false

/-- The places of the entries that are declared. -/
def declaredPlaces (raws : List (Json α)) : List Nat :=
  (List.range raws.length).filter (isFirst raws)

/-- An entry is accepted if it is an object with an identifier, a text for its type, and a label
that is text if there is one. -/
theorem schema_eq_accepted_iff {raw : Json α} {e : Entry α} :
    Entry.schema (some raw) = .accepted e ↔
      raw.field? "NAME" = some (.str e.name) ∧ Text.isIdentifier e.name.toList ∧
        raw.field? "TYPE" = some (.str e.type) ∧ raw.field? "DEFAULT" = e.defaultValue ∧
        raw.field? "MIN" = e.min ∧ raw.field? "MAX" = e.max ∧
        raw.field? "LABEL" = e.label.map .str := by
  unfold Entry.schema
  rw [Schema.object_eq_accepted]
  simp only [Checked.seq_eq_accepted, Checked.map_eq_accepted, Schema.field,
    Checked.under_eq_accepted, Schema.satisfying_eq_accepted, Schema.string_eq_accepted,
    Schema.optional_string_eq_accepted, Schema.anything, Checked.accepted.injEq]
  constructor
  · rintro ⟨fs, hraw, _, label, ⟨_, max, ⟨_, min, ⟨_, given, ⟨_, type, ⟨name, ⟨hname, hidentifier⟩,
      rfl⟩, htype, rfl⟩, hgiven, rfl⟩, hmin, rfl⟩, hmax, rfl⟩, hlabel, rfl⟩
    obtain rfl := Option.some.inj hraw
    exact ⟨hname, hidentifier identifier (by simp), htype, hgiven, hmin, hmax, hlabel⟩
  · rintro ⟨hname, hidentifier, htype, hgiven, hmin, hmax, hlabel⟩
    cases raw with
    | obj fs =>
        exact ⟨fs, rfl, _, e.label, ⟨_, e.max, ⟨_, e.min, ⟨_, e.defaultValue, ⟨_, e.type, ⟨e.name,
          ⟨hname, by simpa [identifier] using hidentifier⟩, rfl⟩, htype, rfl⟩, hgiven, rfl⟩, hmin,
          rfl⟩, hmax, rfl⟩, hlabel, rfl⟩
    | _ => cases hname

/-- What an entry asks for comes of an accepted entry of a supported type. -/
theorem asked?_eq_some_iff {raw : Json α} {e : Entry α} {type : InputType} :
    asked? raw = some (e, type) ↔
      Entry.schema (some raw) = .accepted e ∧ InputType.ofIsf? e.type = some type := by
  rw [asked?]
  cases hchecked : Entry.schema (some raw) with
  | refused is => simp
  | accepted e' =>
      simp only [Option.map_eq_some_iff, Prod.mk.injEq, Checked.accepted.injEq]
      constructor
      · rintro ⟨_, htype, rfl, rfl⟩
        exact ⟨rfl, htype⟩
      · rintro ⟨rfl, htype⟩
        exact ⟨type, htype, rfl, rfl⟩

/-- An entry asks for a name: it is an object that gives it an identifier as its name, a supported
type, and a label that is text if there is one. -/
structure AsksFor (raw : Json α) (name : String) : Prop where
  named : raw.field? "NAME" = some (.str name)
  identifier : Text.isIdentifier name.toList
  typed : ∃ word type, raw.field? "TYPE" = some (.str word) ∧ InputType.ofIsf? word = some type
  labelled : ∃ label : Option String, raw.field? "LABEL" = label.map .str

theorem askedName?_eq_some_iff {raw : Json α} {name : String} :
    askedName? raw = some name ↔ AsksFor raw name := by
  simp only [askedName?, Option.map_eq_some_iff, Prod.exists, asked?_eq_some_iff,
    schema_eq_accepted_iff]
  constructor
  · rintro ⟨e, type, ⟨⟨hname, hidentifier, htype, -, -, -, hlabel⟩, hsupported⟩, rfl⟩
    exact ⟨hname, hidentifier, ⟨e.type, type, htype, hsupported⟩, e.label, hlabel⟩
  · rintro ⟨hname, hidentifier, ⟨word, type, htype, hsupported⟩, label, hlabel⟩
    exact ⟨⟨name, word, raw.field? "DEFAULT", raw.field? "MIN", raw.field? "MAX", label⟩, type,
      ⟨⟨hname, hidentifier, htype, rfl, rfl, rfl, hlabel⟩, hsupported⟩, rfl⟩

/-- The places of the entries that are declared are those of the entries that ask for a name for
which no earlier one asks. -/
theorem mem_declaredPlaces_iff {raws : List (Json α)} {i : Nat} :
    i ∈ declaredPlaces raws ↔ ∃ raw name, raws[i]? = some raw ∧ AsksFor raw name ∧
      ∀ earlier ∈ raws.take i, ¬ AsksFor earlier name := by
  have hplace : i ∈ declaredPlaces raws ↔ i < raws.length ∧ isFirst raws i = true := by
    rw [declaredPlaces, List.mem_filter, List.mem_range]
  rw [hplace, isFirst]
  constructor
  · rintro ⟨hi, hfirst⟩
    have hraw : raws[i]? = some raws[i] := List.getElem?_eq_getElem hi
    rw [hraw, Option.bind_some] at hfirst
    cases hname : askedName? raws[i] with
    | none => simp [hname] at hfirst
    | some name =>
        refine ⟨raws[i], name, hraw, askedName?_eq_some_iff.mp hname, fun earlier hmem hasks => ?_⟩
        have htaken : name ∈ (raws.take i).filterMap askedName? :=
          List.mem_filterMap.mpr ⟨earlier, hmem, askedName?_eq_some_iff.mpr hasks⟩
        simp [hname, htaken] at hfirst
  · rintro ⟨raw, name, hraw, hasks, hearlier⟩
    have hname := askedName?_eq_some_iff.mpr hasks
    have hfree : name ∉ (raws.take i).filterMap askedName? := fun hmem => by
      obtain ⟨earlier, htake, hasked⟩ := List.mem_filterMap.mp hmem
      exact hearlier earlier htake (askedName?_eq_some_iff.mp hasked)
    refine ⟨(List.getElem?_eq_some_iff.mp hraw).1, ?_⟩
    rw [hraw, Option.bind_some, hname]
    simpa using hfree

/-- Whether a warning is that of an entry which is skipped. -/
def IsSkipNotice (index : Nat) (reason : String) : Prop :=
  ∃ middle rest, reason.toList =
    s!"INPUTS[{index}]".toList ++ (middle ++ (" skipped: ".toList ++ rest))

theorem IsSkipNotice.saysSkipped {index : Nat} {reason : String} (h : IsSkipNotice index reason) :
    saysSkipped reason := by
  obtain ⟨middle, rest, h⟩ := h
  rw [Header.saysSkipped, Text.includes, h, ← List.append_assoc]
  exact Text.contains_append _ _ _

/-- An entry is declared if it asks for a name that is not taken, and skipped otherwise. -/
theorem readEntry_cases (taken : List String) (index : Nat) (raw : Json α) :
    (∃ e type, asked? raw = some (e, type) ∧ e.name ∉ taken ∧
      readEntry taken index raw = e.declare index type) ∨
    ((∀ name, askedName? raw = some name → name ∈ taken) ∧
      ∃ reason, readEntry taken index raw = .skipped reason ∧ IsSkipNotice index reason) := by
  rw [askedName?, asked?, readEntry]
  cases hchecked : Entry.schema (some raw) with
  | refused is =>
      refine .inr ⟨by simp, _, rfl, [],
        ((Checked.refused is : Checked (Entry α)).firstMessage "invalid entry").toList, ?_⟩
      simp only [String.toList_append, List.append_assoc]
      rfl
  | accepted e =>
      simp only
      cases htype : InputType.ofIsf? e.type with
      | none =>
          refine .inr ⟨by simp, _, rfl, " \"".toList ++ (e.name.toList ++ ['"']),
            "unsupported TYPE \"".toList ++ (e.type.toList ++ ['"']), ?_⟩
          simp only [String.toList_append, List.append_assoc]
          rfl
      | some type =>
          by_cases htaken : e.name ∈ taken
          · have hcontains : taken.contains e.name = true := List.contains_iff_mem.mpr htaken
            simp only [hcontains, if_true]
            refine .inr ⟨by simpa using htaken, _, rfl, " \"".toList ++ (e.name.toList ++ ['"']),
              "duplicate NAME".toList, ?_⟩
            simp only [String.toList_append, List.append_assoc]
            rfl
          · have hcontains : taken.contains e.name = false := by simpa using htaken
            refine .inl ⟨e, type, rfl, htaken, ?_⟩
            simp only [hcontains, Bool.false_eq_true, if_false]

/-! ## Entry after entry -/

/-- What entries leave behind, one after the other. -/
def gathered (raws : List (Json α)) : Gathered α := readEntries ⟨[], []⟩ 0 raws

/-- The names that some entries take. -/
def takenNames (raws : List (Json α)) : List String := (gathered raws).inputs.map (·.name)

/-- What becomes of an entry at a place. -/
def outcomeAt (raws : List (Json α)) (i : Nat) (raw : Json α) : Outcome α :=
  readEntry (takenNames (raws.take i)) i raw

/-- The last entry is read when those before it have been. -/
theorem readEntries_concat (g : Gathered α) (index : Nat) (raws : List (Json α)) (raw : Json α) :
    readEntries g index (raws ++ [raw]) =
      (readEntries g index raws).add
        (readEntry ((readEntries g index raws).inputs.map (·.name)) (index + raws.length) raw) := by
  induction raws generalizing g index with
  | nil => rfl
  | cons first raws ih =>
      have hplace : index + 1 + raws.length = index + (first :: raws).length := by
        rw [List.length_cons]
        omega
      rw [List.cons_append, readEntries, ih, hplace]
      rfl

/-- The last entry adds what becomes of it. -/
theorem gathered_concat (raws : List (Json α)) (raw : Json α) :
    gathered (raws ++ [raw]) = (gathered raws).add (outcomeAt (raws ++ [raw]) raws.length raw) := by
  rw [gathered, readEntries_concat, outcomeAt, List.take_left, Nat.zero_add]
  rfl

/-- What comes after an entry has no bearing on it. -/
theorem outcomeAt_append {raws : List (Json α)} {i : Nat} (hi : i ≤ raws.length)
    (later : List (Json α)) (raw : Json α) :
    outcomeAt (raws ++ later) i raw = outcomeAt raws i raw := by
  rw [outcomeAt, outcomeAt, List.take_append_of_le_length hi]

/-- What comes after an entry has no bearing on whether it is the first. -/
theorem isFirst_append {raws : List (Json α)} {i : Nat} (hi : i < raws.length)
    (later : List (Json α)) : isFirst (raws ++ later) i = isFirst raws i := by
  rw [isFirst, isFirst, List.getElem?_append_left hi, List.take_append_of_le_length hi.le]

/-- The place of the last entry comes last. -/
theorem declaredPlaces_concat (raws : List (Json α)) (raw : Json α) :
    declaredPlaces (raws ++ [raw]) =
      declaredPlaces raws ++ if isFirst (raws ++ [raw]) raws.length then [raws.length] else [] := by
  have hearlier : (List.range raws.length).filter (isFirst (raws ++ [raw])) =
      (List.range raws.length).filter (isFirst raws) :=
    List.filter_congr fun i hi => isFirst_append (List.mem_range.mp hi) [raw]
  rw [declaredPlaces, List.length_append, List.length_singleton, List.range_succ,
    List.filter_append, hearlier, declaredPlaces, List.filter_singleton, Bool.cond_eq_ite]

/-- The names that are taken are those that are asked for. -/
theorem mem_takenNames {raws : List (Json α)} {name : String} :
    name ∈ takenNames raws ↔ name ∈ raws.filterMap askedName? := by
  induction raws using List.reverseRecOn with
  | nil => rfl
  | append_singleton raws raw ih =>
      have htaken : takenNames (raws ++ [raw]) = takenNames raws ++
          (outcomeAt (raws ++ [raw]) raws.length raw).input?.toList.map (·.name) := by
        rw [takenNames, gathered_concat, inputs_add, List.map_append]
        rfl
      rw [htaken, List.mem_append, List.filterMap_append, List.mem_append, ih, outcomeAt,
        List.take_left]
      rcases readEntry_cases (takenNames raws) raws.length raw with
        ⟨e, type, hasked, -, hdeclare⟩ | ⟨hnone, reason, hskip, -⟩
      · have hname : askedName? raw = some e.name := by rw [askedName?, hasked]; rfl
        rw [hdeclare, List.filterMap_cons_some hname]
        rfl
      · rw [hskip]
        constructor
        · rintro (h | h)
          · exact .inl h
          · cases h
        · rintro (h | h)
          · exact .inl h
          · obtain ⟨raw', hraw', hname⟩ := List.mem_filterMap.mp h
            obtain rfl := List.mem_singleton.mp hraw'
            exact .inl (ih.mp (hnone name hname))

/-- An entry is declared if it is the first one that asks for its name, and skipped otherwise. -/
theorem outcomeAt_cases {raws : List (Json α)} {i : Nat} {raw : Json α}
    (hraw : raws[i]? = some raw) :
    (isFirst raws i = true ∧ ∃ e type, asked? raw = some (e, type) ∧
      outcomeAt raws i raw = e.declare i type) ∨
    (isFirst raws i = false ∧ ∃ reason, outcomeAt raws i raw = .skipped reason ∧
      IsSkipNotice i reason) := by
  rw [isFirst, hraw, Option.bind_some]
  rcases readEntry_cases (takenNames (raws.take i)) i raw with
    ⟨e, type, hasked, hnew, hdeclare⟩ | ⟨hnone, reason, hskip, hnotice⟩
  · have hname : askedName? raw = some e.name := by rw [askedName?, hasked]; rfl
    rw [mem_takenNames] at hnew
    exact .inl ⟨by simpa [hname] using hnew, e, type, hasked, hdeclare⟩
  · refine .inr ⟨?_, reason, hskip, hnotice⟩
    cases hname : askedName? raw with
    | none => rfl
    | some name => simpa [← List.mem_filterMap, ← mem_takenNames] using hnone name hname

/-- The declarations are those of the entries that are the first of their names, in order. -/
theorem forall₂_declaredPlaces (raws : List (Json α)) :
    List.Forall₂ (fun i d => ∃ raw remark, raws[i]? = some raw ∧
      outcomeAt raws i raw = .declared d remark) (declaredPlaces raws) (gathered raws).inputs := by
  induction raws using List.reverseRecOn with
  | nil => exact .nil
  | append_singleton raws raw ih =>
      have hlast : (raws ++ [raw])[raws.length]? = some raw := List.getElem?_concat_length
      have hearlier : List.Forall₂ (fun i d => ∃ raw' remark, (raws ++ [raw])[i]? = some raw' ∧
          outcomeAt (raws ++ [raw]) i raw' = .declared d remark)
          (declaredPlaces raws) (gathered raws).inputs := by
        refine List.Forall₂.imp (fun i d h => ?_) ih
        obtain ⟨raw', remark, hraw', houtcome⟩ := h
        have hi : i < raws.length := (List.getElem?_eq_some_iff.mp hraw').1
        exact ⟨raw', remark, by rw [List.getElem?_append_left hi, hraw'],
          by rw [outcomeAt_append hi.le, houtcome]⟩
      rw [declaredPlaces_concat, gathered_concat, inputs_add]
      refine List.rel_append hearlier ?_
      rcases outcomeAt_cases hlast with ⟨hfirst, e, type, -, hdeclare⟩ | ⟨hlater, reason, hskip, -⟩
      · rw [hfirst, if_pos rfl, hdeclare]
        exact .cons ⟨raw, _, hlast, hdeclare⟩ .nil
      · rw [hlater, hskip]
        exact .nil

/-! ## Warnings and their entries -/

/-- The remark on an entry whose default is passed over. -/
def unfitRemark (index : Nat) (name word : String) : String :=
  s!"INPUTS[{index}] \"{name}\": DEFAULT does not fit {word}, using neutral value"

/-- The remark on an entry that is declared. -/
theorem remark_of_declare {e : Entry α} {index : Nat} {type : InputType} {d : InputDeclaration α}
    {remark : Option String} (h : e.declare index type = .declared d remark) :
    remark = if (e.default type).2 then some (unfitRemark index e.name e.type) else none := by
  cases h
  rfl

/-- A remark starts with the index of its entry. -/
theorem start_of_unfitRemark (index : Nat) (name word : String) :
    ∃ rest, (unfitRemark index name word).toList = s!"INPUTS[{index}]".toList ++ rest := by
  refine ⟨" \"".toList ++ (name.toList ++ ("\": DEFAULT does not fit ".toList ++
    (word.toList ++ ", using neutral value".toList))), ?_⟩
  simp only [unfitRemark, String.toList_append, List.append_assoc]
  rfl

/-- A remark says nothing of skipping. -/
theorem saysSkipped_unfitRemark (index : Nat) {name word : String} {type : InputType}
    (hname : Text.isIdentifier name.toList) (hword : InputType.ofIsf? word = some type) :
    saysSkipped (unfitRemark index name word) = false := by
  have hindex : ' ' ∉ s!"INPUTS[{index}]".toList := by
    simp only [String.toList_append, List.mem_append, not_or]
    exact ⟨⟨by decide, fun h => absurd (Text.isDigit_of_mem_toString h) (by decide)⟩, by decide⟩
  have hblank : ' ' ∉ name.toList := fun h =>
    absurd (Text.isWordChar_of_isIdentifier hname _ h) (by decide)
  have hremark : (unfitRemark index name word).toList = s!"INPUTS[{index}]".toList ++
      (' ' :: '"' :: (name.toList ++ ("\": DEFAULT does not fit ".toList ++
        (word.toList ++ ", using neutral value".toList)))) := by
    simp only [unfitRemark, String.toList_append, List.append_assoc]
    rfl
  -- The mark of a skipped entry can only begin at a blank, and none stands in the name.
  have hopening (cs : List Char) : Text.contains " skipped: ".toList (' ' :: '"' :: cs) =
      Text.contains " skipped: ".toList cs := rfl
  have hclosing : Text.contains " skipped: ".toList ("\": DEFAULT does not fit ".toList ++
      (word.toList ++ ", using neutral value".toList)) = false := by
    unfold InputType.ofIsf? at hword
    split at hword
    case h_10 => cases hword
    all_goals decide
  rw [saysSkipped, Text.includes, hremark]
  have hskip : " skipped: ".toList = ' ' :: "skipped: ".toList := rfl
  rw [hskip, Text.contains_append_of_not_mem hindex, ← hskip, hopening, hskip,
    Text.contains_append_of_not_mem hblank, ← hskip, hclosing]

/-- What an entry leaves to say starts with its index. -/
theorem start_of_mem_notices {taken : List String} {index : Nat} {raw : Json α} {w : String}
    (h : w ∈ (readEntry taken index raw).notices) :
    ∃ rest, w.toList = s!"INPUTS[{index}]".toList ++ rest := by
  rcases readEntry_cases taken index raw with
    ⟨e, type, -, -, hdeclare⟩ | ⟨-, reason, hskip, middle, rest, hreason⟩
  · cases houtcome : e.declare index type with
    | skipped reason => cases houtcome
    | declared d remark =>
        rw [hdeclare, houtcome, Outcome.notices, Option.mem_toList, remark_of_declare houtcome] at h
        split at h
        · obtain rfl := Option.some.inj h
          exact start_of_unfitRemark index e.name e.type
        · cases h
  · rw [hskip, Outcome.notices, List.mem_singleton] at h
    exact ⟨_, h ▸ hreason⟩

/-- Every warning starts with the index of an entry. -/
theorem start_of_mem_warnings {raws : List (Json α)} {w : String}
    (h : w ∈ (gathered raws).warnings) :
    ∃ i < raws.length, ∃ rest, w.toList = s!"INPUTS[{i}]".toList ++ rest := by
  induction raws using List.reverseRecOn with
  | nil => cases h
  | append_singleton raws raw ih =>
      rw [gathered_concat, warnings_add, List.mem_append] at h
      rw [List.length_append, List.length_singleton]
      rcases h with h | h
      · obtain ⟨i, hi, hstart⟩ := ih h
        exact ⟨i, Nat.lt_succ_of_lt hi, hstart⟩
      · exact ⟨raws.length, Nat.lt_succ_self _, start_of_mem_notices h⟩

/-- The warnings with an index are those that its entry left. -/
theorem filter_namesIndex_warnings {raws : List (Json α)} {i : Nat} {raw : Json α}
    (hraw : raws[i]? = some raw) :
    (gathered raws).warnings.filter (namesIndex i) = (outcomeAt raws i raw).notices := by
  induction raws using List.reverseRecOn with
  | nil => cases hraw
  | append_singleton raws last ih =>
      rw [gathered_concat, warnings_add, List.filter_append]
      have hi : i < raws.length + 1 := by
        simpa using (List.getElem?_eq_some_iff.mp hraw).1
      rcases Nat.lt_succ_iff_lt_or_eq.mp hi with hi | rfl
      · rw [List.getElem?_append_left hi] at hraw
        have hlast : (outcomeAt (raws ++ [last]) raws.length last).notices.filter (namesIndex i) =
            [] := by
          refine List.filter_eq_nil_iff.mpr fun w hw => ?_
          obtain ⟨rest, hstart⟩ := start_of_mem_notices hw
          rw [namesIndex_iff hstart]
          exact hi.ne
        rw [ih hraw, outcomeAt_append hi.le, hlast, List.append_nil]
      · obtain rfl : last = raw := by simpa using hraw
        have hearlier : (gathered raws).warnings.filter (namesIndex raws.length) = [] := by
          refine List.filter_eq_nil_iff.mpr fun w hw => ?_
          obtain ⟨j, hj, rest, hstart⟩ := start_of_mem_warnings hw
          rw [namesIndex_iff hstart]
          exact hj.ne'
        rw [hearlier, List.nil_append]
        refine List.filter_eq_self.mpr fun w hw => ?_
        obtain ⟨rest, hstart⟩ := start_of_mem_notices hw
        exact (namesIndex_iff hstart).mpr rfl

/-! ## Defaults -/

/-- The values that declared defaults of the right shape stand for. Numbers are finite; a whole
number is rounded, a truth value may be given as a number, and a colour may leave out its
opacity. -/
inductive TakenAs : InputType → Json α → UniformValue α → Prop where
  | scalar {x : α} (h : Scalar.isFinite x = true) : TakenAs .scalar (.num x) (.number x)
  | integer {x : α} (h : Scalar.isFinite x = true) :
      TakenAs .integer (.num x) (.number (Scalar.round x))
  | flag (b : Bool) : TakenAs .boolean (.bool b) (.flag b)
  | truth {x : α} (h : Scalar.isFinite x = true) : TakenAs .boolean (.num x) (.flag (x != 0.0))
  | vector {type : InputType} {xs : List α} (htype : type ∈ [.vec2, .vec3, .color])
      (hlength : xs.length = vectorLength type) (hfinite : ∀ x ∈ xs, Scalar.isFinite x = true) :
      TakenAs type (.arr (xs.map .num)) (.vector xs)
  | colour {xs : List α} (hlength : xs.length = 3)
      (hfinite : ∀ x ∈ xs, Scalar.isFinite x = true) :
      TakenAs .color (.arr (xs.map .num)) (.vector (xs ++ [1.0]))

/-- Only finite numbers are read as such. -/
theorem finiteNumber?_eq_some_iff {raw : Json α} {x : α} :
    finiteNumber? raw = some x ↔ raw = .num x ∧ Scalar.isFinite x = true := by
  cases raw with
  | num y =>
      rw [finiteNumber?, Scalar.finite?]
      constructor
      · intro h
        split at h
        · next hy =>
          cases h
          exact ⟨rfl, hy⟩
        · cases h
      · rintro ⟨h, hx⟩
        cases h
        rw [if_pos hx]
  | _ => simp [finiteNumber?]

/-- Items are read as finite numbers if each of them is one. -/
theorem mapM_finiteNumber?_eq_some_iff {items : List (Json α)} {xs : List α} :
    items.mapM finiteNumber? = some xs ↔
      items = xs.map .num ∧ ∀ x ∈ xs, Scalar.isFinite x = true := by
  induction items generalizing xs with
  | nil =>
      cases xs <;> simp
  | cons item items ih =>
      simp only [List.mapM_cons, Option.bind_eq_bind, Option.bind_eq_some_iff,
        finiteNumber?_eq_some_iff, ih]
      constructor
      · rintro ⟨x, ⟨rfl, hx⟩, xs, ⟨rfl, hxs⟩, hall⟩
        cases hall
        exact ⟨rfl, List.forall_mem_cons.mpr ⟨hx, hxs⟩⟩
      · rintro ⟨hitems, hfinite⟩
        cases xs with
        | nil => cases hitems
        | cons x xs =>
            cases hitems
            rw [List.forall_mem_cons] at hfinite
            exact ⟨x, ⟨rfl, hfinite.1⟩, xs, ⟨rfl, hfinite.2⟩, rfl⟩

/-- Only an array of so many finite numbers is read as such. -/
theorem numbers?_eq_some_iff {length : Nat} {raw : Json α} {xs : List α} :
    numbers? length raw = some xs ↔
      raw = .arr (xs.map .num) ∧ xs.length = length ∧ ∀ x ∈ xs, Scalar.isFinite x = true := by
  cases raw with
  | arr items =>
      rw [numbers?]
      constructor
      · intro h
        split at h
        · next hlength =>
          obtain ⟨rfl, hfinite⟩ := mapM_finiteNumber?_eq_some_iff.mp h
          exact ⟨rfl, by simpa using hlength, hfinite⟩
        · cases h
      · rintro ⟨hitems, hlength, hfinite⟩
        cases hitems
        rw [if_pos (by simpa using hlength)]
        exact mapM_finiteNumber?_eq_some_iff.mpr ⟨rfl, hfinite⟩
  | _ => simp [numbers?]

/-- A default is taken if and only if it has the right shape. -/
theorem fitDefault?_eq_some_iff {type : InputType} {raw : Json α} {v : UniformValue α} :
    fitDefault? type raw = some v ↔ TakenAs type raw v := by
  constructor
  · intro h
    cases type with
    | scalar =>
        obtain ⟨x, hx, rfl⟩ := Option.map_eq_some_iff.mp h
        obtain ⟨rfl, hfinite⟩ := finiteNumber?_eq_some_iff.mp hx
        exact .scalar hfinite
    | integer =>
        obtain ⟨x, hx, rfl⟩ := Option.map_eq_some_iff.mp h
        obtain ⟨rfl, hfinite⟩ := finiteNumber?_eq_some_iff.mp hx
        exact .integer hfinite
    | boolean =>
        simp only [fitDefault?] at h
        split at h
        · cases h
          exact .flag _
        · obtain ⟨x, hx, rfl⟩ := Option.map_eq_some_iff.mp h
          obtain ⟨rfl, hfinite⟩ := finiteNumber?_eq_some_iff.mp hx
          exact .truth hfinite
    | vec2 | vec3 =>
        obtain ⟨xs, hxs, rfl⟩ := Option.map_eq_some_iff.mp h
        obtain ⟨rfl, hlength, hfinite⟩ := numbers?_eq_some_iff.mp hxs
        exact .vector (by decide) hlength hfinite
    | color =>
        simp only [fitDefault?] at h
        split at h
        · next rgba hrgba =>
          obtain ⟨rfl, hlength, hfinite⟩ := numbers?_eq_some_iff.mp hrgba
          cases h
          exact .vector (by decide) hlength hfinite
        · obtain ⟨rgb, hrgb, rfl⟩ := Option.map_eq_some_iff.mp h
          obtain ⟨rfl, hlength, hfinite⟩ := numbers?_eq_some_iff.mp hrgb
          exact .colour hlength hfinite
    | texture => cases h
  · intro h
    cases h with
    | scalar h => exact Option.map_eq_some_iff.mpr ⟨_, finiteNumber?_eq_some_iff.mpr ⟨rfl, h⟩, rfl⟩
    | integer h => exact Option.map_eq_some_iff.mpr ⟨_, finiteNumber?_eq_some_iff.mpr ⟨rfl, h⟩, rfl⟩
    | flag b => rfl
    | truth h => exact Option.map_eq_some_iff.mpr ⟨_, finiteNumber?_eq_some_iff.mpr ⟨rfl, h⟩, rfl⟩
    | @vector type xs htype hlength hfinite =>
        have hxs := numbers?_eq_some_iff.mpr ⟨rfl, hlength, hfinite⟩
        simp only [List.mem_cons, List.not_mem_nil, or_false] at htype
        rcases htype with rfl | rfl | rfl
        · exact Option.map_eq_some_iff.mpr ⟨_, hxs, rfl⟩
        · exact Option.map_eq_some_iff.mpr ⟨_, hxs, rfl⟩
        · have hfour : numbers? 4 (.arr (xs.map .num)) = some xs := hxs
          rw [fitDefault?, hfour]
    | @colour xs hlength hfinite =>
        have hfour : numbers? 4 (.arr (xs.map .num)) = none := by
          rw [numbers?, if_neg (by simp [hlength])]
        rw [fitDefault?, hfour, numbers?_eq_some_iff.mpr ⟨rfl, hlength, hfinite⟩]
        rfl

/-- Where the default of an input comes of, and whether a declared one is passed over. A texture
has none. -/
inductive DefaultFrom (type : InputType) :
    Option (Json α) → Option (UniformValue α) → (passedOver : Bool) → Prop where
  | texture (h : type = .texture) (given : Option (Json α)) : DefaultFrom type given none false
  | taken {raw : Json α} {v : UniformValue α} (h : TakenAs type raw v) :
      DefaultFrom type (some raw) (some v) false
  | missing (h : type ≠ .texture) : DefaultFrom type none (neutralDefault type) false
  | unfit {raw : Json α} (h : type ≠ .texture) (hraw : ∀ v, ¬ TakenAs type raw v) :
      DefaultFrom type (some raw) (neutralDefault type) true

/-- Where the default of an entry comes of. -/
theorem Entry.default_from (e : Entry α) (type : InputType) :
    DefaultFrom type e.defaultValue (e.default type).1 (e.default type).2 := by
  by_cases htexture : type = .texture
  · subst htexture
    exact .texture rfl _
  cases hgiven : e.defaultValue with
  | none =>
      have hdefault : e.default type = (neutralDefault type, false) := by
        cases type <;> simp_all [Entry.default]
      rw [hdefault]
      exact .missing htexture
  | some raw =>
      cases hfit : fitDefault? type raw with
      | none =>
          have hdefault : e.default type = (neutralDefault type, true) := by
            cases type <;> simp_all [Entry.default]
          rw [hdefault]
          refine .unfit htexture fun v hv => ?_
          rw [fitDefault?_eq_some_iff.mpr hv] at hfit
          cases hfit
      | some v =>
          have hdefault : e.default type = (some v, false) := by
            cases type <;> simp_all [Entry.default]
          rw [hdefault]
          exact .taken (fitDefault?_eq_some_iff.mp hfit)

/-! ## Declared and skipped entries -/

/-- A declaration says what the entry at a place asks for. All that is warned of is a default which
is passed over. -/
structure DeclaredBy (warnings : List String) (i : Nat) (raw : Json α) (d : InputDeclaration α) :
    Prop where
  identifier : Text.isIdentifier d.name.toList
  name : raw.field? "NAME" = some (.str d.name)
  min : d.min = (raw.field? "MIN").bind (fitBound? d.type)
  max : d.max = (raw.field? "MAX").bind (fitBound? d.type)
  label : raw.field? "LABEL" = d.label.map .str
  sound : d.Sound
  typed : ∃ word passedOver, raw.field? "TYPE" = some (.str word) ∧
    InputType.ofIsf? word = some d.type ∧
    DefaultFrom d.type (raw.field? "DEFAULT") d.defaultValue passedOver ∧
    warnings.filter (namesIndex i) = if passedOver then [unfitRemark i d.name word] else []

/-- The one warning with an index says that its entry is skipped. -/
def SkippedAt (warnings : List String) (i : Nat) : Prop :=
  ∃ w, warnings.filter (namesIndex i) = [w] ∧ saysSkipped w

/-- A declaration that comes of an entry says what it asks for. -/
theorem declaredBy_of_outcome [Scalar.Regular α] {raws : List (Json α)} {i : Nat} {raw : Json α}
    {d : InputDeclaration α} {remark : Option String} (hraw : raws[i]? = some raw)
    (h : outcomeAt raws i raw = .declared d remark) :
    DeclaredBy (gathered raws).warnings i raw d := by
  have hwarnings := filter_namesIndex_warnings hraw
  rw [h, Outcome.notices] at hwarnings
  have hsound := sound_of_declared h
  rcases outcomeAt_cases hraw with ⟨-, e, type, hasked, hdeclare⟩ | ⟨-, reason, hskip, -⟩
  · rw [h] at hdeclare
    obtain ⟨haccepted, hsupported⟩ := asked?_eq_some_iff.mp hasked
    obtain ⟨hname, hidentifier, htype, hgiven, hmin, hmax, hlabel⟩ :=
      schema_eq_accepted_iff.mp haccepted
    rw [remark_of_declare hdeclare.symm] at hwarnings
    cases hdeclare
    refine ⟨hidentifier, hname, by rw [hmin], by rw [hmax], hlabel, hsound, e.type,
      (e.default type).2, htype, hsupported, by rw [hgiven]; exact e.default_from type, ?_⟩
    rw [hwarnings]
    split <;> rfl
  · rw [h] at hskip
    cases hskip

/-- None of the warnings with the index of a declared entry says that it is skipped. -/
theorem DeclaredBy.not_saysSkipped {warnings : List String} {i : Nat} {raw : Json α}
    {d : InputDeclaration α} (h : DeclaredBy warnings i raw d) :
    ∀ w ∈ warnings, namesIndex i w → saysSkipped w = false := by
  intro w hw hi
  obtain ⟨word, passedOver, -, hsupported, -, hwarnings⟩ := h.typed
  have hmem : w ∈ warnings.filter (namesIndex i) := List.mem_filter.mpr ⟨hw, hi⟩
  rw [hwarnings] at hmem
  split at hmem
  · rw [List.mem_singleton.mp hmem]
    exact saysSkipped_unfitRemark i h.identifier hsupported
  · cases hmem

/-- An entry that is not the first of its name is skipped. -/
theorem skippedAt_of_not_mem {raws : List (Json α)} {i : Nat} (hi : i < raws.length)
    (h : i ∉ declaredPlaces raws) : SkippedAt (gathered raws).warnings i := by
  have hraw : raws[i]? = some raws[i] := List.getElem?_eq_getElem hi
  rcases outcomeAt_cases hraw with ⟨hfirst, -⟩ | ⟨-, reason, hskip, hnotice⟩
  · exact absurd (List.mem_filter.mpr ⟨List.mem_range.mpr hi, hfirst⟩) h
  · refine ⟨reason, ?_, hnotice.saysSkipped⟩
    rw [filter_namesIndex_warnings hraw, hskip]
    rfl

/-! ## Taking entries out -/

/-- The items at some of the places of a list. -/
def kept {β : Type} (keep : Nat → Bool) (items : List β) : List β :=
  (items.zipIdx.filter fun item => keep item.2).map (·.1)

theorem kept_concat {β : Type} (keep : Nat → Bool) (items : List β) (item : β) :
    kept keep (items ++ [item]) =
      kept keep items ++ if keep items.length then [item] else [] := by
  rw [kept, List.zipIdx_append, List.filter_append, List.map_append, Nat.zero_add]
  congr 1
  cases hkeep : keep items.length <;> simp [hkeep]

/-- What is declared does not depend on the index. -/
theorem input?_readEntry (taken : List String) (i j : Nat) (raw : Json α) :
    (readEntry taken i raw).input? = (readEntry taken j raw).input? := by
  rw [readEntry, readEntry]
  cases Entry.schema (some raw) with
  | refused is => rfl
  | accepted e =>
      simp only
      cases InputType.ofIsf? e.type with
      | none => rfl
      | some type => by_cases htaken : taken.contains e.name = true <;> simp only [htaken] <;> rfl

/-- Entries that are skipped can be taken out. -/
theorem inputs_kept {raws : List (Json α)} {keep : Nat → Bool}
    (h : ∀ i ∈ declaredPlaces raws, keep i = true) :
    (gathered (kept keep raws)).inputs = (gathered raws).inputs := by
  induction raws using List.reverseRecOn with
  | nil => rfl
  | append_singleton raws raw ih =>
      have hearlier : (gathered (kept keep raws)).inputs = (gathered raws).inputs :=
        ih fun i hi => h i (by rw [declaredPlaces_concat]; exact List.mem_append_left _ hi)
      have hlast : (raws ++ [raw])[raws.length]? = some raw := List.getElem?_concat_length
      rw [kept_concat, gathered_concat, inputs_add, ← hearlier]
      cases hkeep : keep raws.length with
      | true =>
          have houtcome : (outcomeAt (kept keep raws ++ [raw]) (kept keep raws).length raw).input? =
              (outcomeAt (raws ++ [raw]) raws.length raw).input? := by
            rw [outcomeAt, outcomeAt, List.take_left, List.take_left, takenNames, hearlier]
            exact input?_readEntry _ _ _ raw
          rw [if_pos rfl, gathered_concat, inputs_add, houtcome]
      | false =>
          rcases outcomeAt_cases hlast with ⟨hfirst, -⟩ | ⟨-, reason, hskip, -⟩
          · have hmem : raws.length ∈ declaredPlaces (raws ++ [raw]) := by
              rw [declaredPlaces_concat, if_pos hfirst]
              exact List.mem_append_right _ List.mem_cons_self
            rw [h _ hmem] at hkeep
            cases hkeep
          · rw [hskip]
            simp [Outcome.input?]

/-! ## Headers -/

/-- A source starts with a header comment of the right shape that holds a JSON value. -/
def Holds (source : String) (v : Json α) : Prop :=
  ∃ json body fields, locate? source.toList = some (json, body) ∧ readTolerant? json = some v ∧
    Fields.schema (some v) = .accepted fields

/-- A list whose items are all taken is taken as it is. -/
theorem list_anything_eq_accepted {v : Option (Json α)} {items : List (Option (Json α))}
    (h : Schema.list .anything v = .accepted items) :
    ∃ vs, v = some (.arr vs) ∧ items = vs.map some := by
  have hall (n : Nat) (vs : List (Json α)) :
      Checked.all (fun v => Schema.anything (some v)) n vs = .accepted (vs.map some) := by
    induction vs generalizing n with
    | nil => rfl
    | cons v vs ih =>
        rw [Checked.all, ih]
        rfl
  rcases v with _ | (_ | _ | _ | _ | vs | _)
  case some.arr =>
    rw [Schema.list, hall] at h
    cases h
    exact ⟨vs, rfl, rfl⟩
  all_goals cases h

/-- The entries of checked fields are those of the value. -/
theorem entries_of_accepted {v : Json α} {fields : Fields α}
    (h : Fields.schema (some v) = .accepted fields) :
    (fields.inputs.getD []).map (fun e => e.getD .null) = entries v := by
  unfold Fields.schema at h
  obtain ⟨fs, hv, hfields⟩ := Schema.object_eq_accepted.mp h
  simp only [Checked.seq_eq_accepted, Checked.map_eq_accepted, Schema.field,
    Checked.under_eq_accepted] at hfields
  obtain ⟨_, _, ⟨_, _, ⟨_, _, ⟨inputs, hinputs, rfl⟩, -, rfl⟩, -, rfl⟩, -, rfl⟩ := hfields
  obtain rfl := Option.some.inj hv
  change (inputs.getD []).map (fun e => e.getD .null) =
    ((Keyed.get? "INPUTS" fs).bind Json.asArray?).getD []
  cases hpresent : Keyed.get? "INPUTS" fs with
  | none =>
      rw [hpresent] at hinputs
      cases hinputs
      rfl
  | some w =>
      rw [hpresent, Schema.optional_some_eq_accepted] at hinputs
      obtain ⟨items, hitems, rfl⟩ := hinputs
      obtain ⟨vs, hvs, rfl⟩ := list_anything_eq_accepted hitems
      cases hvs
      simp [Json.asArray?]

/-- What is read of a source with a header of the right shape. -/
theorem Holds.read {source : String} {v : Json α} (h : Holds source v) :
    ∃ body fields, Fields.schema (some v) = .accepted fields ∧
      Header.read source = .ok (ofFields source.toList body fields) := by
  obtain ⟨json, body, fields, hlocate, hread, haccepted⟩ := h
  refine ⟨body, fields, haccepted, ?_⟩
  simp only [Header.read, hlocate, hread, haccepted]

/-- Inputs and warnings of a header are those of its entries. -/
theorem Holds.gathered {source : String} {v : Json α} (h : Holds source v) :
    ∃ header, Header.read source = .ok header ∧
      header.inputs = (Header.gathered (entries v)).inputs ∧
      header.warnings = (Header.gathered (entries v)).warnings := by
  obtain ⟨body, fields, haccepted, hread⟩ := h.read
  refine ⟨_, hread, ?_⟩
  rw [← entries_of_accepted haccepted]
  exact ⟨rfl, rfl⟩

/-- Each entry of a header is declared or skipped, and none has a bearing on the others: the
declarations are those of the entries that are the first to ask for their names, in order, and every
other entry leaves one warning with its index. The names are different, defaults fit their types, and
entries that are skipped can be taken out. -/
theorem entries_settled [Scalar.Regular α] {source : String} {v : Json α}
    (hsource : Holds source v) :
    ∃ header, read source = .ok header ∧
      (∀ i, i ∈ declaredPlaces (entries v) ↔ ∃ raw name, (entries v)[i]? = some raw ∧
        AsksFor raw name ∧ ∀ earlier ∈ (entries v).take i, ¬ AsksFor earlier name) ∧
      List.Forall₂
        (fun i d => ∃ raw, (entries v)[i]? = some raw ∧ DeclaredBy header.warnings i raw d ∧
          ∀ w ∈ header.warnings, namesIndex i w → saysSkipped w = false)
        (declaredPlaces (entries v)) header.inputs ∧
      (∀ i < (entries v).length, i ∉ declaredPlaces (entries v) → SkippedAt header.warnings i) ∧
      (header.inputs.map (·.name)).Nodup ∧
      (∀ entry ∈ header.defaults, ∃ d ∈ header.inputs, d.name = entry.1 ∧
        d.defaultValue = some entry.2 ∧ entry.2.Fits d.type.glslType) ∧
      ∀ (keep : Nat → Bool) (shorter : String) (v' : Json α),
        (∀ i ∈ declaredPlaces (entries v), keep i = true) → Holds shorter v' →
        entries v' = kept keep (entries v) →
        ∃ header', read shorter = .ok header' ∧ header'.inputs = header.inputs ∧
          header'.defaults = header.defaults := by
  obtain ⟨header, hread, hinputs, hwarnings⟩ := hsource.gathered
  have hdeclared : List.Forall₂
      (fun i d => ∃ raw, (entries v)[i]? = some raw ∧ DeclaredBy header.warnings i raw d ∧
        ∀ w ∈ header.warnings, namesIndex i w → saysSkipped w = false)
      (declaredPlaces (entries v)) header.inputs := by
    rw [hinputs, hwarnings]
    refine (forall₂_declaredPlaces (entries v)).imp fun i d h => ?_
    obtain ⟨raw, remark, hraw, houtcome⟩ := h
    have hby := declaredBy_of_outcome hraw houtcome
    exact ⟨raw, hraw, hby, hby.not_saysSkipped⟩
  have hsound : ∀ d ∈ header.inputs, d.Sound := by
    rw [hinputs]
    exact forall_mem_readEntries sound_of_declared (by simp) 0 _
  refine ⟨header, hread, fun _ => mem_declaredPlaces_iff, hdeclared, ?_, ?_, ?_, ?_⟩
  · intro i hi hlater
    rw [hwarnings]
    exact skippedAt_of_not_mem hi hlater
  · rw [hinputs]
    exact nodup_names_readEntries (by simp) 0 _
  · intro entry hentry
    obtain ⟨d, hd, hvalue⟩ := List.mem_filterMap.mp hentry
    split at hvalue
    · cases hvalue
    · obtain ⟨value, hdefault, rfl⟩ := Option.map_eq_some_iff.mp hvalue
      exact ⟨d, hd, rfl, hdefault, (hsound d hd).fits value hdefault⟩
  · intro keep shorter v' hkeep hshorter hentries
    obtain ⟨header', hread', hinputs', -⟩ := hshorter.gathered
    rw [hentries, inputs_kept hkeep, ← hinputs] at hinputs'
    exact ⟨header', hread', hinputs', by rw [defaults, defaults, hinputs']⟩

/-- A header with an entry that is no object, a default that does not fit, and a name that is asked
for twice. -/
def patchyHeader : Json Float :=
  .obj [("INPUTS", .arr
    [ .str "m"
    , .obj [("NAME", .str "a"), ("TYPE", .str "float"), ("DEFAULT", .str "b")]
    , .obj [("NAME", .str "a"), ("TYPE", .str "int")] ])]

/-- A source with that header. -/
def patchySource : String :=
  "/*\x7b\"INPUTS\":[\"m\"," ++
  "\x7b\"NAME\":\"a\",\"TYPE\":\"float\",\"DEFAULT\":\"b\"\x7d," ++
  "\x7b\"NAME\":\"a\",\"TYPE\":\"int\"\x7d]\x7d*/"

/-- The header without the entries that are skipped. -/
def patchedHeader : Json Float :=
  .obj [("INPUTS", .arr
    [.obj [("NAME", .str "a"), ("TYPE", .str "float"), ("DEFAULT", .str "b")]])]

/-- A source with that header. -/
def patchedSource : String :=
  "/*\x7b\"INPUTS\":[\x7b\"NAME\":\"a\",\"TYPE\":\"float\",\"DEFAULT\":\"b\"\x7d]\x7d*/"

theorem holds_patchySource : Holds patchySource patchyHeader := ⟨_, _, _, rfl, rfl, rfl⟩

theorem holds_patchedSource : Holds patchedSource patchedHeader := ⟨_, _, _, rfl, rfl, rfl⟩

/-- One entry is declared and two are skipped, and the declared one is left if the others are taken
out. -/
theorem entries_settled_of_patchySource :
    ∃ header header', read (α := Float) patchySource = .ok header ∧
      read (α := Float) patchedSource = .ok header' ∧
      header.inputs.length = 1 ∧ header'.inputs = header.inputs ∧
      SkippedAt header.warnings 0 ∧ SkippedAt header.warnings 2 := by
  have hplaces : declaredPlaces (entries patchyHeader) = [1] := by decide
  obtain ⟨header, hread, -, hdeclared, hskipped, -, -, hshorter⟩ :=
    entries_settled holds_patchySource
  obtain ⟨header', hread', hinputs, -⟩ := hshorter (· == 1) patchedSource
    patchedHeader (by rw [hplaces]; decide) holds_patchedSource rfl
  rw [hplaces] at hdeclared hskipped
  exact ⟨header, header', hread, hread', hdeclared.length_eq.symm, hinputs,
    hskipped 0 (by decide) (by decide), hskipped 2 (by decide) (by decide)⟩

end Header

end LiveVisuals
