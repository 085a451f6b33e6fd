import Mathlib.Data.List.Basic
import Mathlib.Data.List.Nodup
import LiveVisuals.Proofs.Shader.Injected
import LiveVisuals.Proofs.Text.Token
import LiveVisuals.Shader.Diagnostic

/-!
# The line map is exact

The compilable text of a source starts with the hoisted directives of its body, goes on with
injected lines, and ends with one line for each line of the body. The line map says for each
line of the text which source line it comes from, and messages of a compiler are traced along
it.

Main definitions:

- {lit}`Shader.hoistedPlaces`: the places of the body lines that are hoisted.
- {lit}`Shader.renamed`: a body line as it is written.
- {lit}`Shader.originOf`: the source line that a line of the text comes from.

Main results:

- Theorem {lit}`Transpiled.outputLines_eq`: the lines of the text, one by one.
- Theorem {lit}`Transpiled.lineMap_exact`: the line map is exact.
-/

namespace LiveVisuals

/-! ## The layout of a text -/

namespace Shader

/-- Whether the body line at a place is the directive {lit}`word`. -/
def directiveAt (word : String) (body : List (List Char)) (i : Nat) : Bool :=
  isDirective word (body.getD i [])

/-- The place of the first version directive. -/
def versionPlace? (body : List (List Char)) : Option Nat :=
  (List.range body.length).find? (directiveAt "version" body)

/-- The places of the extension directives, in order. -/
def extensionPlaces (body : List (List Char)) : List Nat :=
  (List.range body.length).filter (directiveAt "extension" body)

/-- The places of the hoisted lines: the version directive comes first. -/
def hoistedPlaces (body : List (List Char)) : List Nat :=
  (versionPlace? body).toList ++ extensionPlaces body

/-- A body line as it is written: for ISF every token that names the fragment coordinate names
the flipped one. -/
def renamed : Dialect → List Char → List Char
  | .glsl, l => l
  | .isf, l =>
      ((Text.tokens l).map fun w =>
        if w = "gl_FragCoord".toList then "vj_FragCoord".toList else w).flatten

/-- The source line that line {lit}`k` of a text comes from, both counted from one, when
{lit}`offset` line breaks stand ahead of a body of {lit}`count` lines: none for the
{lit}`injected` lines and for lines that are not there. -/
def originOf (offset : Nat) (hoisted : List Nat) (injected count k : Nat) : Option Nat :=
  if k = 0 then none
  else if h : k - 1 < hoisted.length then some (offset + 1 + hoisted[k - 1])
  else if k ≤ hoisted.length + injected then none
  else if k ≤ hoisted.length + injected + count then
    some (offset + (k - hoisted.length - injected))
  else none

/-- No line is a version directive and an extension directive. -/
theorem not_extension_of_version {l : List Char} (h : isDirective "version" l) :
    isDirective "extension" l = false := by
  have hstrip : ∃ rest, Text.strip? ('#' :: "version".toList) (Text.skipBlanks l) = some rest := by
    rw [isDirective] at h
    split at h
    · exact ⟨_, ‹_›⟩
    · cases h
  obtain ⟨rest, hrest⟩ := hstrip
  have hnone : Text.strip? ('#' :: "extension".toList) (Text.skipBlanks l) = none := by
    rw [Text.strip?_eq_some_iff.mp hrest]
    simp [Text.strip?]
  rw [isDirective, hnone]

/-- A line of a body is hoisted if it is the first version directive or an extension directive. -/
theorem mem_hoistedPlaces {body : List (List Char)} {i : Nat} :
    i ∈ hoistedPlaces body ↔
      versionPlace? body = some i ∨ (i < body.length ∧ directiveAt "extension" body i) := by
  simp [hoistedPlaces, extensionPlaces]

end Shader

/-! ## Hoisting -/

namespace BodyLine

open Shader

/-- A body line by its place. -/
def ofPlace (first : Nat) (body : List (List Char)) (hoisted : Bool) (i : Nat) : BodyLine :=
  ⟨body.getD i [], first + i, hoisted⟩

section

variable (first : Nat) (body : List (List Char))

/-- A line that was not hoisted is the directive at its place. -/
@[simp] theorem is_ofPlace (word : String) (hoisted : Bool) (i : Nat) :
    (ofPlace first body hoisted i).is word = (!hoisted && directiveAt word body i) :=
  rfl

/-- Hoisting the version directive hides no extension directive. -/
theorem is_extension_ofPlace (i : Nat) :
    (ofPlace first body (decide (versionPlace? body = some i)) i).is "extension" =
      directiveAt "extension" body i := by
  rw [is_ofPlace]
  by_cases h : versionPlace? body = some i
  · have hversion : directiveAt "version" body i := List.find?_some h
    have hextension : directiveAt "extension" body i = false := not_extension_of_version hversion
    rw [hextension, Bool.and_false]
  · simp [h]

end

/-- Hoisting the first line with a property marks the first one that has it. -/
theorem hoistFirst_map {β : Type} [DecidableEq β] (p : BodyLine → Bool) (f : β → BodyLine)
    {ks : List β} (hks : ks.Nodup) :
    hoistFirst p (ks.map f) =
      ks.map fun k =>
        { f k with hoisted := (f k).hoisted || decide (ks.find? (p ∘ f) = some k) } := by
  induction ks with
  | nil => rfl
  | cons k ks ih =>
      obtain ⟨hk, hks⟩ := List.nodup_cons.mp hks
      rw [List.map_cons, hoistFirst]
      by_cases hp : p (f k)
      · have hrest : ∀ k' ∈ ks, k ≠ k' := fun k' hk' h => hk (h ▸ hk')
        have hfind : (k :: ks).find? (p ∘ f) = some k := by simp [hp]
        rw [if_pos hp, List.map_cons, hfind]
        congr 1
        · simp
        · refine List.map_congr_left fun k' hk' => ?_
          simp [hrest k' hk']
      · have hfind : (k :: ks).find? (p ∘ f) = ks.find? (p ∘ f) := by simp [hp]
        have hself : decide (ks.find? (p ∘ f) = some k) = false :=
          decide_eq_false fun h => hk (List.mem_of_find?_eq_some h)
        rw [if_neg hp, List.map_cons, hfind, ih hks, hself, Bool.or_false]

/-- The lines of a body by their places. -/
theorem ofBody_eq (first : Nat) (body : List Char) :
    ofBody first body =
      (List.range (Text.lines body).length).map (ofPlace first (Text.lines body) false) := by
  refine List.ext_getElem (by simp [ofBody]) fun i h _ => ?_
  have hi : i < (Text.lines body).length := by simpa [ofBody] using h
  simp [ofBody, ofPlace, hi]

/-- The version directive that is hoisted. -/
theorem find?_ofBody (first : Nat) (body : List Char) :
    (ofBody first body).find? (·.is "version") =
      (versionPlace? (Text.lines body)).map (ofPlace first (Text.lines body) false) := by
  rw [ofBody_eq, List.find?_map]
  rfl

/-- The lines of a body once the version directive is hoisted. -/
theorem hoistFirst_ofBody (first : Nat) (body : List Char) :
    hoistFirst (·.is "version") (ofBody first body) =
      (List.range (Text.lines body).length).map fun i =>
        ofPlace first (Text.lines body) (decide (versionPlace? (Text.lines body) = some i)) i := by
  rw [ofBody_eq, hoistFirst_map _ _ List.nodup_range]
  rfl

/-- The extension directives that are hoisted. -/
theorem filter_hoistFirst_ofBody (first : Nat) (body : List Char) :
    (hoistFirst (·.is "version") (ofBody first body)).filter (·.is "extension") =
      (extensionPlaces (Text.lines body)).map fun i =>
        ofPlace first (Text.lines body) (decide (versionPlace? (Text.lines body) = some i)) i := by
  have hplaces : ((·.is "extension") ∘ fun i =>
      ofPlace first (Text.lines body) (decide (versionPlace? (Text.lines body) = some i)) i) =
        directiveAt "extension" (Text.lines body) :=
    funext (is_extension_ofPlace first (Text.lines body))
  rw [hoistFirst_ofBody, List.filter_map, hplaces, extensionPlaces]

/-- The lines of a body once all its directives are hoisted. -/
theorem hoistAll_ofBody (first : Nat) (body : List Char) :
    hoistAll (·.is "extension") (hoistFirst (·.is "version") (ofBody first body)) =
      (List.range (Text.lines body).length).map fun i =>
        ofPlace first (Text.lines body) (decide (i ∈ hoistedPlaces (Text.lines body))) i := by
  rw [hoistFirst_ofBody, hoistAll, List.map_map]
  refine List.map_congr_left fun i hi => ?_
  have hlt : i < (Text.lines body).length := List.mem_range.mp hi
  simp only [Function.comp, is_extension_ofPlace, mem_hoistedPlaces, hlt, true_and]
  by_cases hextension : directiveAt "extension" (Text.lines body) i
  · simp [ofPlace, hextension]
  · simp [ofPlace, hextension]

end BodyLine

namespace Transpiled

open Shader BodyLine

variable {α : Type}

/-- The lines of a text: hoisted lines, injected lines, lines of the body. -/
theorem outputLines_eq (source : ShaderSource α) (uniforms : UniformSet α) :
    let body := Text.lines source.body.toList
    outputLines source uniforms =
      (hoistedPlaces body).map (fun i =>
        ⟨String.ofList (Text.trim (body.getD i [])), some (source.bodyLineOffset + 1 + i)⟩) ++
      (prologue source uniforms).map .injected ++
      (List.range body.length).map fun i =>
        ⟨bodyText source.dialect (if i ∈ hoistedPlaces body then [] else body.getD i []),
          some (source.bodyLineOffset + 1 + i)⟩ := by
  intro body
  rw [outputLines]
  simp only [find?_ofBody, filter_hoistFirst_ofBody, hoistAll_ofBody, List.map_append,
    List.map_map]
  refine congrArg₂ (· ++ ·) (congrArg (· ++ _) ?_) ?_
  · rw [hoistedPlaces, List.map_append]
    cases versionPlace? body <;> rfl
  · refine List.map_congr_left fun i _ => ?_
    simp [ofPlace, BodyLine.left, body]

/-- A line of the body as it is written, token by token. -/
theorem toList_bodyText (dialect : Dialect) (l : List Char) :
    (bodyText dialect l).toList = renamed dialect l := by
  cases dialect with
  | glsl => exact String.toList_ofList
  | isf =>
      have hne : "gl_FragCoord".toList ≠ [] := by decide
      have hword : "gl_FragCoord".toList.all Text.isWordChar := by decide
      rw [bodyText, String.toList_ofList, renamed,
        Text.replaceWord_eq_flatten _ hne (List.all_eq_true.mp hword)]

/-- An empty line stays empty. -/
@[simp] theorem renamed_nil (dialect : Dialect) : renamed dialect [] = [] := by
  cases dialect with
  | glsl => rfl
  | isf => rw [renamed, Text.tokens, List.map_nil, List.flatten_nil]

section

variable {source : ShaderSource α} (hnames : ∀ d ∈ source.inputs, Text.isIdentifier d.name.toList)
include hnames

/-- The lines of a text are unbroken. -/
theorem isUnbroken_of_mem_outputLines :
    ∀ o ∈ outputLines source (UniformSet.compile source.inputs), Text.IsUnbroken o.text.toList := by
  intro o ho
  have hline : ∀ i, Text.IsUnbroken ((Text.lines source.body.toList).getD i []) := by
    intro i
    rw [List.getD_eq_getElem?_getD]
    cases h : (Text.lines source.body.toList)[i]? with
    | none => simp
    | some l => exact Text.isUnbroken_of_mem_lines (List.mem_of_getElem? h)
  rw [outputLines_eq, List.mem_append, List.mem_append] at ho
  rcases ho with (hhoisted | hinjected) | hbody
  · obtain ⟨i, -, rfl⟩ := List.mem_map.mp hhoisted
    simpa using (hline i).trim
  · obtain ⟨l, hl, rfl⟩ := List.mem_map.mp hinjected
    exact isUnbroken_of_mem_prologue hnames l hl
  · obtain ⟨i, -, rfl⟩ := List.mem_map.mp hbody
    have hleft : Text.IsUnbroken
        (if i ∈ hoistedPlaces (Text.lines source.body.toList) then []
          else (Text.lines source.body.toList).getD i []) := by
      split
      · simp
      · exact hline i
    cases source.dialect with
    | glsl => simpa [bodyText] using hleft
    | isf =>
        simp only [bodyText, String.toList_ofList]
        exact Text.isUnbroken_replaceWord (by simp) hleft

/-- The lines of a text are the lines that were written. -/
theorem lines_outputLines :
    let written := outputLines source (UniformSet.compile source.inputs)
    Text.lines (Text.joinLines (written.map (·.text))).toList = written.map (·.text.toList) := by
  intro written
  have hne : written.map (·.text) ≠ [] := by
    have hbody := Text.lines_ne_nil source.body.toList
    simp [written, outputLines_eq, hbody]
  have hunbroken : ∀ l ∈ written.map (·.text), Text.IsUnbroken l.toList := by
    intro l hl
    obtain ⟨o, ho, rfl⟩ := List.mem_map.mp hl
    exact isUnbroken_of_mem_outputLines hnames o ho
  rw [Text.lines_joinLines hne hunbroken, List.map_map]
  rfl

end

/-! ## Looking up lines -/

/-- A line of the text is looked up at its place: among the hoisted lines, the injected lines or
the lines of the body. -/
theorem sourceLineOf_layout (offset : Nat) (hoisted : List Nat) (injected count : Nat)
    (line : Option Nat) :
    Diagnostic.sourceLineOf
        (hoisted.map (fun i => some (offset + 1 + i)) ++ List.replicate injected none ++
          (List.range count).map fun i => some (offset + 1 + i)) line =
      line.bind (originOf offset hoisted injected count) := by
  rcases line with _ | _ | k
  · rfl
  · rfl
  · simp only [Diagnostic.sourceLineOf, Option.bind_some, originOf, Nat.add_sub_cancel]
    rw [if_neg (Nat.succ_ne_zero k), List.append_assoc]
    by_cases hhoisted : k < hoisted.length
    · rw [List.getElem?_append_left (by simpa using hhoisted), dif_pos hhoisted]
      simp [hhoisted]
    · rw [List.getElem?_append_right (by simpa using hhoisted), dif_neg hhoisted,
        List.length_map]
      by_cases hinjected : k - hoisted.length < injected
      · rw [List.getElem?_append_left (by simpa using hinjected), if_pos (by omega)]
        simp [hinjected]
      · rw [List.getElem?_append_right (by simpa using hinjected), if_neg (by omega),
          List.length_replicate, List.getElem?_map]
        by_cases hbody : k - hoisted.length - injected < count
        · have hline : offset + 1 + (k - hoisted.length - injected) =
              offset + (k + 1 - hoisted.length - injected) := by omega
          rw [List.getElem?_range hbody, if_pos (by omega), ← hline]
          rfl
        · rw [List.getElem?_eq_none (by simpa using hbody), if_neg (by omega)]
          rfl

variable [Scalar α]

/-- What a source that was read becomes. -/
theorem ofSource_of_read {dialect : Dialect} {raw : String} {source : ShaderSource α}
    (hread : (ShaderSource.read dialect raw).1 = source) :
    let t : Transpiled α := ofSource dialect raw
    t.dialect = source.dialect ∧ t.uniforms = UniformSet.compile source.inputs ∧
      t.lines = outputLines source (UniformSet.compile source.inputs) := by
  cases hpair : ShaderSource.read (α := α) dialect raw with
  | mk s warnings =>
      obtain rfl : s = source := by rw [← hread, hpair]
      simp [ofSource, hpair]

/-- The lines of a text: hoisted lines, trimmed, injected lines, lines of the body. -/
theorem lines_text {dialect : Dialect} {raw : String} {source : ShaderSource α}
    (hread : (ShaderSource.read dialect raw).1 = source) :
    let body := Text.lines source.body.toList
    Text.lines (ofSource (α := α) dialect raw).text.toList =
      (hoistedPlaces body).map (fun i => Text.trim (body.getD i [])) ++
      (prologue source (UniformSet.compile source.inputs)).map (·.toList) ++
      (List.range body.length).map fun i =>
        if i ∈ hoistedPlaces body then [] else renamed source.dialect (body.getD i []) := by
  intro body
  obtain ⟨-, -, hwritten⟩ := ofSource_of_read hread
  rw [text, hwritten, lines_outputLines (ShaderSource.isIdentifier_of_mem_inputs hread),
    outputLines_eq, List.map_append, List.map_append, List.map_map, List.map_map, List.map_map]
  refine congrArg₂ (· ++ ·) (congrArg₂ (· ++ ·) ?_ rfl) ?_
  · simp [Function.comp_def, body]
  · refine List.map_congr_left fun i _ => ?_
    simp only [Function.comp, toList_bodyText]
    split
    · rw [renamed_nil]
    · rfl

/-- The line map of a text has an entry for each of its lines. The text starts with the hoisted
lines, trimmed, goes on with the injected lines, and ends with the lines of the body, the
hoisted ones left empty; each line but the injected ones has the number of its own source line.
The lines of the body are those of the source, the first one perhaps without what the header
takes of it. So compiler messages are traced to the source line that their line comes from, and
to none if it was injected or is not there. -/
theorem lineMap_exact (dialect : Dialect) (raw : String) :
    let source : ShaderSource α := (ShaderSource.read dialect raw).1
    let t : Transpiled α := ofSource dialect raw
    let offset := source.bodyLineOffset
    let body := Text.lines source.body.toList
    let hoisted := hoistedPlaces body
    let injected := prologue source t.uniforms
    t.lineMap.length = (Text.lines t.text.toList).length ∧
    (Text.lines t.text.toList).zip t.lineMap =
      hoisted.map (fun i => (Text.trim (body.getD i []), some (offset + 1 + i))) ++
      injected.map (fun l => (l.toList, none)) ++
      (List.range body.length).map (fun i =>
        (if i ∈ hoisted then [] else renamed t.dialect (body.getD i []),
          some (offset + 1 + i))) ∧
    (∀ i l, body[i]? = some l →
      ∃ ahead, (Text.lines raw.toList)[offset + i]? = some (ahead ++ l) ∧
        (0 < i → ahead = [])) ∧
    ∀ entries : List LogEntry, Diagnostic.trace entries t.lineMap =
      entries.map fun e =>
        { e with
          sourceLine := e.line.bind (originOf offset hoisted injected.length body.length) } := by
  obtain ⟨source, hread⟩ : ∃ s : ShaderSource α, (ShaderSource.read dialect raw).1 = s := ⟨_, rfl⟩
  obtain ⟨hdialect, huniforms, hwritten⟩ := ofSource_of_read hread
  have hlines := lines_outputLines (ShaderSource.isIdentifier_of_mem_inputs hread)
  simp only [hread, hdialect, huniforms, lineMap, text, hwritten, hlines, List.zip_map']
  refine ⟨by simp, ?_, fun i l hl => ShaderSource.line_of_body hread hl, fun entries => ?_⟩
  · rw [outputLines_eq]
    simp only [List.map_append, List.map_map]
    refine congrArg₂ (· ++ ·) (congrArg₂ (· ++ ·) ?_ ?_) ?_
    · simp [Function.comp_def]
    · rfl
    · refine List.map_congr_left fun i _ => ?_
      simp only [Function.comp, toList_bodyText]
      split
      · simp
      · rfl
  · have hsources : (outputLines source (UniformSet.compile source.inputs)).map (·.source) = _ :=
      congrArg (List.map (·.source)) (outputLines_eq source (UniformSet.compile source.inputs))
    rw [Diagnostic.trace, hsources]
    simp only [← sourceLineOf_layout]
    simp [Function.comp_def, OutputLine.injected]

end Transpiled

end LiveVisuals
