import LiveVisuals.Proofs.Shader.Scan

/-!
# Declarators of a declaration

A declaration of uniforms may list several names. Only the first of them is taken for declared,
and only if the declaration does not start where another one is still under way: behind the word
{lit}`uniform`, or behind that and a type. So of a uniform that a body declares as a later name of a
list a second declaration is injected, unless it is the first name of another one.

Main definitions:

- {lit}`Shader.SpellsUniforms`: the texts that declare uniforms of given names.
- {lit}`Shader.Lexeme.UnderWay`: a text behind which a declaration goes on.

Main results:

- Theorem {lit}`Shader.Lexeme.mem_declaredNames_append`: no text ahead of a declaration hides it,
  unless a declaration is under way there.
- Theorem {lit}`Shader.Lexeme.exists_of_mem_declaredNames`: each name stands behind what leads to
  it.
- Theorem {lit}`Transpiled.first_declarator_seen`: first names are seen, and no others are.
-/

namespace LiveVisuals

namespace Shader

open Text

/-! ## The texts of declarations -/

/-- Blanks only. -/
def AreBlanks (g : List Char) : Prop := ∀ c ∈ g, isBlank c

instance (g : List Char) : Decidable (AreBlanks g) :=
  decidable_of_iff (g.all isBlank) List.all_eq_true

/-- Blanks, at least one. -/
def IsGap (g : List Char) : Prop := g ≠ [] ∧ AreBlanks g

instance (g : List Char) : Decidable (IsGap g) := inferInstanceAs (Decidable (_ ∧ _))

/-- The texts that list names, with commas between them and a semicolon at the end. -/
inductive SpellsNames : List (List Char) → List Char → Prop
  | last {name blanks : List Char} (hname : isIdentifier name) (hblanks : AreBlanks blanks) :
      SpellsNames [name] (name ++ (blanks ++ [';']))
  | more {name blanks blanks' text : List Char} {names : List (List Char)}
      (hname : isIdentifier name) (hblanks : AreBlanks blanks)
      (hblanks' : AreBlanks blanks') (hrest : SpellsNames names text) :
      SpellsNames (name :: names) (name ++ (blanks ++ ',' :: (blanks' ++ text)))

/-- The texts that declare uniforms of given names, with or without a precision. -/
inductive SpellsUniforms : List (List Char) → List Char → Prop
  | plain {gap type gap' text : List Char} {names : List (List Char)} (hgap : IsGap gap)
      (htype : isIdentifier type) (hprecision : type ∉ precisionWords) (hgap' : IsGap gap')
      (hnames : SpellsNames names text) :
      SpellsUniforms names ("uniform".toList ++ (gap ++ (type ++ (gap' ++ text))))
  | qualified {gap precision gap' type gap'' text : List Char} {names : List (List Char)}
      (hgap : IsGap gap) (hprecision : precision ∈ precisionWords) (hgap' : IsGap gap')
      (htype : isIdentifier type) (hgap'' : IsGap gap'') (hnames : SpellsNames names text) :
      SpellsUniforms names
        ("uniform".toList ++ (gap ++ (precision ++ (gap' ++ (type ++ (gap'' ++ text))))))

/-- A word with a gap behind it. -/
theorem lexemes_word_gap {w g rest : List Char} (hne : w ≠ []) (hw : ∀ c ∈ w, isWordChar c)
    (hg : IsGap g) (hrest : ∀ c ∈ rest.head?, isBlank c = false) :
    lexemes (w ++ (g ++ rest)) = .word w :: .gap :: lexemes rest := by
  have hhead : ∀ c ∈ (g ++ rest).head?, isWordChar c = false := by
    intro c hc
    rw [List.head?_append_of_ne_nil g hg.1] at hc
    exact isWordChar_of_isBlank (hg.2 c (List.mem_of_mem_head? hc))
  rw [lexemes_word hne hw hhead, lexemes_gap hg.1 hg.2 hrest]

/-- Identifiers start with no blank. -/
theorem head_of_isIdentifier {w : List Char} (h : isIdentifier w) (rest : List Char) :
    ∀ c ∈ (w ++ rest).head?, isBlank c = false := by
  intro c hc
  cases w with
  | nil => cases h
  | cons d w =>
      cases hc
      exact isBlank_of_isWordChar (isWordChar_of_isIdentifier h _ List.mem_cons_self)

theorem ne_nil_of_isIdentifier {w : List Char} (h : isIdentifier w) : w ≠ [] := by
  rintro rfl
  cases h

/-- Precision qualifiers are identifiers. -/
theorem isIdentifier_of_mem_precisionWords : ∀ w ∈ precisionWords, isIdentifier w := by
  decide

/-- Behind blanks and a mark no word goes on. -/
theorem head_of_blanks {blanks : List Char} (hblanks : AreBlanks blanks) {mark : Char}
    (hmark : isWordChar mark = false) (rest : List Char) :
    ∀ c ∈ (blanks ++ mark :: rest).head?, isWordChar c = false := by
  intro c hc
  cases blanks with
  | nil =>
      cases hc
      exact hmark
  | cons d blanks =>
      cases hc
      exact isWordChar_of_isBlank (hblanks _ List.mem_cons_self)

/-- A list of names starts with the first one, and that is a word. -/
theorem exists_of_spellsNames {name : List Char} {names : List (List Char)} {text : List Char}
    (h : SpellsNames (name :: names) text) :
    isIdentifier name ∧ ∃ rest, text = name ++ rest ∧
      ∀ after, ∀ c ∈ (rest ++ after).head?, isWordChar c = false := by
  cases h with
  | last hname hblanks =>
      refine ⟨hname, _, rfl, fun after => ?_⟩
      rw [List.append_assoc]
      exact head_of_blanks hblanks (by decide) after
  | more hname hblanks hblanks' hrest =>
      refine ⟨hname, _, rfl, fun after => ?_⟩
      rw [List.append_assoc, List.cons_append]
      exact head_of_blanks hblanks (by decide) _

/-- The texts that declare uniforms start with their word. -/
theorem head_of_spellsUniforms {names : List (List Char)} {text : List Char}
    (h : SpellsUniforms names text) (after : List Char) :
    ∀ c ∈ (text ++ after).head?, isWordChar c ∧ isBlank c = false := by
  have hstart : ∀ rest, ∀ c ∈ ("uniform".toList ++ rest).head?,
      isWordChar c ∧ isBlank c = false := by
    intro rest c hc
    rw [List.head?_append_of_ne_nil _ (by decide)] at hc
    obtain rfl : 'u' = c := Option.some.inj hc
    decide
  cases h with
  | plain hgap htype hprecision hgap' hnames =>
      rw [List.append_assoc]
      exact hstart _
  | qualified hgap hprecision hgap' htype hgap'' hnames =>
      rw [List.append_assoc]
      exact hstart _

/-- In a declaration of uniforms the first name is found. -/
theorem declaration?_of_spellsUniforms {name : List Char} {names : List (List Char)}
    {text : List Char} (h : SpellsUniforms (name :: names) text) (after : List Char) :
    ∃ rest, Lexeme.declaration? (lexemes (text ++ after)) = some (name, rest) := by
  have hkeyword := isWordChar_of_mem_keyword "uniform".toList (by simp)
  have hword {w : List Char} (hw : isIdentifier w) : w ≠ [] ∧ ∀ c ∈ w, isWordChar c :=
    ⟨ne_nil_of_isIdentifier hw, isWordChar_of_isIdentifier hw⟩
  cases h with
  | plain hgap htype hprecision hgap' hnames =>
      obtain ⟨hname, rest, rfl, hends⟩ := exists_of_spellsNames hnames
      refine ⟨lexemes (rest ++ after), ?_⟩
      simp only [List.append_assoc]
      rw [lexemes_word_gap hkeyword.1 hkeyword.2 hgap (head_of_isIdentifier htype _),
        lexemes_word_gap (hword htype).1 (hword htype).2 hgap' (head_of_isIdentifier hname _),
        lexemes_word (hword hname).1 (hword hname).2 (hends after)]
      exact Lexeme.declaration?_plain htype hprecision hname _
  | qualified hgap hprecision hgap' htype hgap'' hnames =>
      obtain ⟨hname, rest, rfl, hends⟩ := exists_of_spellsNames hnames
      have hqualifier := isIdentifier_of_mem_precisionWords _ hprecision
      refine ⟨lexemes (rest ++ after), ?_⟩
      simp only [List.append_assoc]
      rw [lexemes_word_gap hkeyword.1 hkeyword.2 hgap (head_of_isIdentifier hqualifier _),
        lexemes_word_gap (hword hqualifier).1 (hword hqualifier).2 hgap'
          (head_of_isIdentifier htype _),
        lexemes_word_gap (hword htype).1 (hword htype).2 hgap'' (head_of_isIdentifier hname _),
        lexemes_word (hword hname).1 (hword hname).2 (hends after)]
      exact Lexeme.declaration?_qualified hprecision htype hname _

/-! ## What hides a declaration -/

namespace Lexeme

/-- A declaration is under way at the end of a text: its word stands there, or that and a type. -/
def UnderWay (before : List Lexeme) : Prop :=
  [word "uniform".toList, gap] <:+ before ∨ ∃ lead, Leads lead ∧ lead <:+ before

/-- Where the word does not occur no declaration is under way. -/
theorem not_underWay {before : List Lexeme} (h : word "uniform".toList ∉ before) :
    ¬ UnderWay before := by
  rintro (hsuffix | ⟨lead, hlead, hsuffix⟩)
  · exact h (hsuffix.subset List.mem_cons_self)
  · cases hlead <;> exact h (hsuffix.subset List.mem_cons_self)

/-- What is under way at the end of a text is under way however much stands before it. -/
theorem UnderWay.append {before : List Lexeme} (h : UnderWay before) (ahead : List Lexeme) :
    UnderWay (ahead ++ before) := by
  rcases h with hsuffix | ⟨lead, hlead, hsuffix⟩
  · exact .inl (hsuffix.trans (List.suffix_append ahead before))
  · exact .inr ⟨lead, hlead, hsuffix.trans (List.suffix_append ahead before)⟩

/-- If a declaration takes the word of another one for a type or a name, it is under way there. -/
theorem underWay_of_cut {before more lead : List Lexeme} {name : List Char} (hlead : Leads lead)
    (hne : before ≠ []) (h : lead ++ [word name] = before ++ word "uniform".toList :: more) :
    UnderWay before := by
  cases hlead with
  | plain htype =>
      rcases before with _ | ⟨l₁, _ | ⟨l₂, _ | ⟨l₃, _ | ⟨l₄, before⟩⟩⟩⟩
      · exact absurd rfl hne
      · simp at h
      · obtain ⟨rfl, rfl, -⟩ := by simpa using h
        exact .inl (List.suffix_refl _)
      · simp at h
      · obtain ⟨rfl, rfl, rfl, rfl, hrest⟩ := by simpa using h
        cases before with
        | nil => exact .inr ⟨_, .plain htype, List.suffix_refl _⟩
        | cons l before => simp at hrest
  | qualified hprecision htype =>
      rcases before with _ | ⟨l₁, _ | ⟨l₂, _ | ⟨l₃, _ | ⟨l₄, _ | ⟨l₅, _ | ⟨l₆, before⟩⟩⟩⟩⟩⟩
      · exact absurd rfl hne
      · simp at h
      · obtain ⟨rfl, rfl, -⟩ := by simpa using h
        exact .inl (List.suffix_refl _)
      · simp at h
      · obtain ⟨rfl, rfl, rfl, rfl, -⟩ := by simpa using h
        exact .inr ⟨_, .plain (isIdentifier_of_mem_precisionWords _ hprecision),
          List.suffix_refl _⟩
      · simp at h
      · obtain ⟨rfl, rfl, rfl, rfl, rfl, rfl, hrest⟩ := by simpa using h
        cases before with
        | nil => exact .inr ⟨_, .qualified hprecision htype, List.suffix_refl _⟩
        | cons l before => simp at hrest

/-- A declaration is found behind any text, unless another one is under way there. -/
theorem mem_declaredNames_append {before ls rest : List Lexeme} {name : List Char}
    (hbefore : ¬ UnderWay before) (h : declaration? ls = some (name, rest)) :
    name ∈ declaredNames (before ++ ls) := by
  have hself : name ∈ declaredNames ls := by
    rw [declaredNames_of_some h]
    exact List.mem_cons_self
  obtain ⟨more, rfl⟩ : ∃ more, ls = word "uniform".toList :: more := by
    obtain ⟨-, lead, hlead, rfl⟩ := declaration?_eq_some h
    cases hlead <;> exact ⟨_, rfl⟩
  induction hlength : before.length using Nat.strong_induction_on generalizing before with
  | h n ih =>
  subst hlength
  cases before with
  | nil => exact hself
  | cons l before =>
      cases hfound : declaration? (l :: before ++ word "uniform".toList :: more) with
      | none =>
          rw [List.cons_append] at hfound ⊢
          rw [declaredNames_of_none hfound]
          exact ih before.length (Nat.lt_succ_self _) (fun hway => hbefore (hway.append [l])) rfl
      | some found =>
          obtain ⟨name', rest'⟩ := found
          rw [declaredNames_of_some hfound]
          apply List.mem_cons_of_mem
          obtain ⟨-, lead, hlead, hsplit⟩ := declaration?_eq_some hfound
          -- the other declaration ends before this one, or takes its word
          have hcut : (l :: before) ++ word "uniform".toList :: more =
              (lead ++ [word name']) ++ rest' := by
            rw [hsplit, List.append_assoc, List.singleton_append]
          rcases List.append_eq_append_iff.mp hcut with
            ⟨taken, htaken, hrest⟩ | ⟨left, hleft, hrest⟩
          · cases taken with
            | nil =>
                rw [List.nil_append] at hrest
                rw [← hrest]
                exact hself
            | cons t taken =>
                obtain ⟨rfl, -⟩ := List.cons.inj hrest
                exact absurd (underWay_of_cut hlead (List.cons_ne_nil l before) htaken) hbefore
          · rw [hrest]
            refine ih left.length ?_ (fun hway => hbefore ?_) rfl
            · rw [hleft]
              simp only [List.length_append, List.length_cons]
              omega
            · rw [hleft]
              exact hway.append _

/-- Each name that is declared stands behind what leads to it. -/
theorem exists_of_mem_declaredNames {ls : List Lexeme} {name : List Char}
    (h : name ∈ declaredNames ls) :
    ∃ before lead after, Leads lead ∧ ls = before ++ lead ++ word name :: after := by
  induction ls using declaredNames.induct with
  | case1 =>
      rw [declaredNames] at h
      cases h
  | case2 l ls name' rest hfound ih =>
      obtain ⟨-, lead, hlead, hsplit⟩ := declaration?_eq_some hfound
      rw [declaredNames_of_some hfound] at h
      rcases List.mem_cons.mp h with rfl | h
      · exact ⟨[], lead, rest, hlead, hsplit⟩
      · obtain ⟨before, lead', after, hlead', rfl⟩ := ih h
        refine ⟨lead ++ word name' :: before, lead', after, hlead', ?_⟩
        simp [hsplit]
  | case3 l ls hfound ih =>
      rw [declaredNames_of_none hfound] at h
      obtain ⟨before, lead, after, hlead, rfl⟩ := ih h
      exact ⟨l :: before, lead, after, hlead, rfl⟩

end Lexeme

/-- The first name of a declaration in the live text is declared, unless another declaration is
under way there. -/
theorem first_mem_declaredUniforms {body before text after : List Char} {first : List Char}
    {others : List (List Char)} (hlive : stripComments body = before ++ text ++ after)
    (htext : SpellsUniforms (first :: others) text)
    (hends : before.getLast?.any isWordChar = false)
    (hbefore : ¬ Lexeme.UnderWay (lexemes before)) :
    String.ofList first ∈ declaredUniforms body := by
  have hhead := head_of_spellsUniforms htext after
  have hlexemes : lexemes (before ++ (text ++ after)) =
      lexemes before ++ lexemes (text ++ after) := by
    apply lexemes_append
    · intro c hc hword
      rw [Option.mem_def.mp hc, Option.any_some, hword] at hends
      cases hends
    · exact fun _ _ _ d hd => (hhead d hd).2
  obtain ⟨rest, hfound⟩ := declaration?_of_spellsUniforms htext after
  rw [mem_declaredUniforms_iff, String.toList_ofList, hlive, List.append_assoc, hlexemes]
  exact Lexeme.mem_declaredNames_append hbefore hfound

end Shader

namespace Transpiled

open Shader Text

variable {α : Type} [Scalar α]

/-- The injected lines declare those uniforms of a text that its body does not declare. -/
theorem exists_injected_iff (dialect : Dialect) (raw : String) (name : String) :
    (∃ l ∈ (ofSource (α := α) dialect raw).injected, name ∈ declaredUniforms l.toList) ↔
      name ∈ (ofSource (α := α) dialect raw).uniforms.names ∧
        name ∉ declaredUniforms (ShaderSource.read (α := α) dialect raw).1.body.toList := by
  obtain ⟨source, hread⟩ : ∃ s : ShaderSource α, (ShaderSource.read dialect raw).1 = s := ⟨_, rfl⟩
  have hnames :=
    UniformSet.isIdentifier_of_mem_compile (ShaderSource.isIdentifier_of_mem_inputs hread)
  have hdeclared : declaredIn (prologue source (UniformSet.compile source.inputs)) = _ :=
    declaredIn_prologue hnames
  rw [hread, (ofSource_of_read hread).2.1, injected_ofSource hread, ← List.mem_flatMap,
    ← declaredIn, hdeclared]
  simp

/-- Of a declaration of uniforms in the live text of a body the first name is seen, whatever the
blanks, the precision and the names behind it, unless another declaration is under way where it
starts; no injected line declares it again. The names that are seen are those that stand behind the
word and a type, with or without a precision, so a later name of a list is seen only if it stands
there too: else an injected line declares it again. -/
theorem first_declarator_seen (dialect : Dialect) (raw : String) :
    let source : ShaderSource α := (ShaderSource.read dialect raw).1
    let t : Transpiled α := ofSource dialect raw
    let body := source.body.toList
    (∀ before text after first others, stripComments body = before ++ text ++ after →
      SpellsUniforms (first :: others) text →
      before.getLast?.any isWordChar = false → ¬ Lexeme.UnderWay (lexemes before) →
      String.ofList first ∈ declaredUniforms body ∧
        ∀ l ∈ t.injected, String.ofList first ∉ declaredUniforms l.toList) ∧
    (∀ name ∈ declaredUniforms body, ∃ before lead after, Lexeme.Leads lead ∧
      lexemes (stripComments body) = before ++ lead ++ .word name.toList :: after) ∧
    ∀ name ∈ t.uniforms.names,
      (∀ before lead after, Lexeme.Leads lead →
        lexemes (stripComments body) ≠ before ++ lead ++ .word name.toList :: after) →
      ∃ l ∈ t.injected, name ∈ declaredUniforms l.toList := by
  intro source t body
  have hinjected := exists_injected_iff (α := α) dialect raw
  have hled : ∀ name ∈ declaredUniforms body, ∃ before lead after, Lexeme.Leads lead ∧
      lexemes (stripComments body) = before ++ lead ++ .word name.toList :: after :=
    fun name hname => Lexeme.exists_of_mem_declaredNames (mem_declaredUniforms_iff.mp hname)
  refine ⟨?_, hled, ?_⟩
  · intro before text after first others hlive htext hends hbefore
    have hfirst : String.ofList first ∈ declaredUniforms body :=
      first_mem_declaredUniforms hlive htext hends hbefore
    exact ⟨hfirst, fun l hl hname => ((hinjected _).mp ⟨l, hl, hname⟩).2 hfirst⟩
  · intro name hname hnever
    refine (hinjected name).mpr ⟨hname, fun hbody => ?_⟩
    obtain ⟨before, lead, after, hlead, hsplit⟩ := hled name hbody
    exact hnever before lead after hlead hsplit

/-- A body that declares two uniforms at once, behind a comment. -/
def listedUniforms : String :=
  "#version 300 es\n/* the clock */ uniform\thighp float time ,\n depth;\nvoid main() {}"

theorem first_declarator_seen_of_listedUniforms :
    (String.ofList "time".toList ∈ declaredUniforms listedUniforms.toList ∧
      ∀ l ∈ (ofSource (α := Float) .glsl listedUniforms).injected,
        String.ofList "time".toList ∉ declaredUniforms l.toList) ∧
    ∃ l ∈ (ofSource (α := Float) .glsl listedUniforms).injected,
      "mouse" ∈ declaredUniforms l.toList := by
  have hall := first_declarator_seen (α := Float) .glsl listedUniforms
  refine ⟨?_, ?_⟩
  · have hnames : SpellsNames ["time".toList, "depth".toList]
        ("time".toList ++ ([' '] ++ ',' :: ("\n ".toList ++ ("depth".toList ++ ([] ++ [';']))))) :=
      .more (by decide) (by decide) (by decide) (.last (by decide) (by decide))
    have htext : SpellsUniforms ["time".toList, "depth".toList]
        ("uniform".toList ++ (['\t'] ++ ("highp".toList ++ ([' '] ++
          ("float".toList ++ ([' '] ++ _)))))) :=
      .qualified (by decide) (by decide) (by decide) (by decide) (by decide) hnames
    exact hall.1 "#version 300 es\n  ".toList _ "\nvoid main() {}".toList _ _ (by decide +kernel)
      htext (by decide) (Lexeme.not_underWay (by decide +kernel))
  · have hnever : Lexeme.word "mouse".toList ∉
        lexemes (stripComments listedUniforms.toList) := by decide +kernel
    refine hall.2.2 "mouse" (by decide) fun before lead after _ hsplit => hnever ?_
    exact hsplit ▸ List.mem_append_right _ List.mem_cons_self

/-- A uniform that is declared as the second of two is declared again, and so is one whose
declaration starts behind the last word of a macro if that word starts one. -/
theorem later_declarators_unseen :
    let listed := "uniform float depth, time;\nvoid main(){}"
    let behindMacro := "#define U uniform\nuniform float time;\nvoid main(){}"
    (SpellsUniforms ["depth".toList, "time".toList] "uniform float depth, time;".toList ∧
      stripComments listed.toList =
        "uniform float depth, time;".toList ++ "\nvoid main(){}".toList ∧
      declaredUniforms listed.toList = ["depth"] ∧
      ∃ l ∈ (ofSource (α := Float) .glsl listed).injected, "time" ∈ declaredUniforms l.toList) ∧
    SpellsUniforms ["time".toList] "uniform float time;".toList ∧
      stripComments behindMacro.toList = "#define U uniform\n".toList ++
        "uniform float time;".toList ++ "\nvoid main(){}".toList ∧
      declaredUniforms behindMacro.toList = ["float"] ∧
      ∃ l ∈ (ofSource (α := Float) .glsl behindMacro).injected,
        "time" ∈ declaredUniforms l.toList := by
  have hlisted : SpellsUniforms ["depth".toList, "time".toList]
      ("uniform".toList ++ ([' '] ++ ("float".toList ++ ([' '] ++
        ("depth".toList ++ ([] ++ ',' :: ([' '] ++ ("time".toList ++ ([] ++ [';']))))))))) :=
    .plain (by decide) (by decide) (by decide) (by decide)
      (.more (by decide) (by decide) (by decide) (.last (by decide) (by decide)))
  have hsingle : SpellsUniforms ["time".toList]
      ("uniform".toList ++ ([' '] ++ ("float".toList ++ ([' '] ++
        ("time".toList ++ ([] ++ [';'])))))) :=
    .plain (by decide) (by decide) (by decide) (by decide) (.last (by decide) (by decide))
  intro listed behindMacro
  have hfirst : declaredUniforms listed.toList = ["depth"] := by
    rw [String.toList_ofList]
    decide +kernel
  have hmacro : declaredUniforms behindMacro.toList = ["float"] := by
    rw [String.toList_ofList]
    decide +kernel
  refine ⟨⟨hlisted, by decide +kernel, hfirst, ?_⟩, hsingle, by decide +kernel, hmacro, ?_⟩
  · refine (exists_injected_iff (α := Float) .glsl listed "time").mpr ⟨by decide, ?_⟩
    exact hfirst ▸ by decide
  · refine (exists_injected_iff (α := Float) .glsl behindMacro "time").mpr ⟨by decide, ?_⟩
    exact hmacro ▸ by decide

end Transpiled

end LiveVisuals
