import Mathlib.Data.List.DropRight
import LiveVisuals.Proofs.Files.Edited
import LiveVisuals.Proofs.Text.Digits

/-!
# Which changes of a tree a signature tells of

The signature of a scan is the number of files and the latest modification. So a later state of
the shader directory counts as changed if the directory has appeared or vanished, if there are
more files or fewer, or if something in one of both trees was modified later than everything in
the other, and otherwise not. An operation that takes place later than everything that the scan
has seen is of that kind. A change among older modification times is not: while something is
dated ahead, files can be written, exchanged and made anew without a trace.

Main definitions:

- {lit}`Scan.Readable`: what can be scanned.
- {lit}`Scan.Differ`, {lit}`Scan.Same`: states that signatures tell apart, and states that are
  the same but for the order in which directories are listed.

Main results:

- Theorem {lit}`Signature.text_injective`: signatures that are written alike are the same.
- Theorem {lit}`Scan.differ_iff`: signatures tell exactly those states apart.
- Theorem {lit}`Registry.changed_iff_differ`: what a registry takes for a change.
- Theorem {lit}`Registry.unnoticed_changes`: changes that it does not notice.
-/

namespace LiveVisuals

/-! ## Signatures as texts -/

namespace Signature

/-- The digits behind the point of a time in milliseconds. -/
def digits (time : Nat) : List Nat := [time / 100 % 10, time / 10 % 10, time % 10]

/-- Those digits up to the last that is not zero. -/
def needed (time : Nat) : List Nat := (digits time).rdropWhile (· == 0)

/-- Digits with a point ahead of them, if there are any. -/
def fraction (ds : List Nat) : List Char :=
  if ds.isEmpty then [] else '.' :: ds.map Nat.digitChar

theorem lt_of_mem_needed {time d : Nat} (h : d ∈ needed time) : d < 10 := by
  have hd : d ∈ digits time := (List.rdropWhile_prefix _ _).subset h
  simp only [digits, List.mem_cons, List.not_mem_nil, or_false] at hd
  omega

/-- The zeros that are left out are known from how many digits there are. -/
theorem digits_eq (time : Nat) :
    digits time = needed time ++ List.replicate (3 - (needed time).length) 0 := by
  have hsplit : needed time ++ (digits time).rtakeWhile (· == 0) = digits time :=
    List.rdropWhile_append_rtakeWhile
  have hlength := congrArg List.length hsplit
  rw [List.length_append, show (digits time).length = 3 from rfl] at hlength
  have hzeros : (digits time).rtakeWhile (· == 0) = List.replicate (3 - (needed time).length) 0 :=
    List.eq_replicate_iff.mpr ⟨by omega, fun d hd => by simpa using List.mem_rtakeWhile_imp hd⟩
  rw [← hzeros, hsplit]

theorem eq_of_fraction {ds ds' : List Nat} (hds : ∀ d ∈ ds, d < 10) (hds' : ∀ d ∈ ds', d < 10)
    (h : fraction ds = fraction ds') : ds = ds' := by
  have hread {ds : List Nat} (hds : ∀ d ∈ ds, d < 10) :
      (fraction ds).tail.map (·.toNat - '0'.toNat) = ds := by
    have hdigit : ∀ d < 10, (Nat.digitChar d).toNat - '0'.toNat = d := by decide
    have htail : (fraction ds).tail = ds.map Nat.digitChar := by
      cases ds <;> rfl
    rw [htail, List.map_map]
    conv_rhs => rw [← List.map_id ds]
    exact List.map_congr_left fun d hd => hdigit d (hds d hd)
  rw [← hread hds, h, hread hds']

theorem toList_timeText (time : Nat) :
    (timeText time).toList = (toString (time / 1000)).toList ++ fraction (needed time) := by
  have hdigit {d : Nat} (hd : d < 10) : (toString d).toList = [Nat.digitChar d] :=
    Nat.toList_repr.trans (Nat.toDigits_of_lt_base hd)
  have hdigits : (needed time).flatMap (fun d => (toString d).toList) =
      (needed time).map Nat.digitChar := by
    rw [List.map_eq_flatMap]
    exact List.flatMap_congr fun d hd => hdigit (lt_of_mem_needed hd)
  have htext : timeText time = if (needed time).isEmpty then toString (time / 1000) else
      toString (time / 1000) ++ "." ++ String.join ((needed time).map toString) := rfl
  rw [htext, fraction]
  split
  · simp
  · rw [String.toList_append, String.toList_append, String.toList_join, List.flatMap_map, hdigits,
      List.append_assoc]
    rfl

/-- Times that are written alike are the same. -/
theorem timeText_injective : Function.Injective timeText := by
  intro time time' h
  have hpoint (n : Nat) : '.' ∉ (toString n).toList := fun hmem =>
    absurd (Text.isDigit_of_mem_toString hmem) (by decide)
  have hhead (ds : List Nat) : ∀ c ∈ (fraction ds).head?, c = '.' := by
    cases ds <;> simp [fraction]
  have hlist := congrArg String.toList h
  rw [toList_timeText, toList_timeText] at hlist
  obtain ⟨hwhole, hfraction⟩ := Text.eq_of_mark (hpoint _) (hpoint _) (hhead _) (hhead _) hlist
  have hneeded : needed time = needed time' :=
    eq_of_fraction (fun _ => lt_of_mem_needed) (fun _ => lt_of_mem_needed) hfraction
  have hdigits : digits time = digits time' := by rw [digits_eq, hneeded, ← digits_eq]
  have hmillis : time / 1000 = time' / 1000 := Text.toString_nat_injective hwhole
  simp only [digits, List.cons.injEq, and_true] at hdigits
  omega

/-- Signatures that are written alike are the same. -/
theorem text_injective : Function.Injective text := by
  have htree (files latest : Nat) : (text (.tree files latest)).toList =
      (toString files).toList ++ ':' :: (timeText latest).toList := by
    have htext : text (.tree files latest) = toString files ++ ":" ++ timeText latest := rfl
    simp [htext]
  have hcolon (n : Nat) : ':' ∉ (toString n).toList := fun hmem =>
    absurd (Text.isDigit_of_mem_toString hmem) (by decide)
  have hmissing (files latest : Nat) : text missing ≠ text (.tree files latest) := by
    intro h
    have hmem : ':' ∈ (text missing).toList := by
      rw [h, htree]
      simp
    exact absurd hmem (by decide)
  intro signature signature' h
  cases signature with
  | missing =>
      cases signature' with
      | missing => rfl
      | tree files latest => exact absurd h (hmissing files latest)
  | tree files latest =>
      cases signature' with
      | missing => exact absurd h.symm (hmissing files latest)
      | tree files' latest' =>
          have hlist := congrArg String.toList h
          rw [htree, htree] at hlist
          obtain ⟨hfiles, htail⟩ := Text.eq_of_mark (hcolon _) (hcolon _) (by simp) (by simp) hlist
          have htime : timeText latest = timeText latest' :=
            String.toList_inj.mp (List.cons.inj htail).2
          rw [Text.toString_nat_injective hfiles, timeText_injective htime]

end Signature

/-! ## What signatures tell apart -/

open Files

namespace Scan

/-- What can be scanned: a directory, or nothing at all. -/
inductive Readable : Except Error Node → Prop where
  | missing : Readable (.error .notFound)
  | directory (entries : List (String × Node)) (time : Nat) :
      Readable (.ok (.directory entries time))

/-- The signature of what is found at the path of the shader directory. -/
def signatureOf : Except Error Node → Signature
  | .ok n => .tree n.places.length n.latest
  | .error _ => .missing

/-- What can be scanned has a scan, with its signature. -/
theorem Readable.exists_scan {state : Except Error Node} (h : Readable state) (root : String) :
    ∃ s, ofNode root state = .ok s ∧ s.signature = signatureOf state := by
  cases h with
  | missing => exact ⟨_, rfl, rfl⟩
  | directory entries time =>
      obtain ⟨files, -, hscan⟩ := ofNode_directory root entries time
      exact ⟨_, hscan, rfl⟩

/-- Two states of which the directory is there in one only, or has more files in one, or something
in one was modified later than everything in the other. -/
inductive Differ : Except Error Node → Except Error Node → Prop where
  | appeared (n : Node) : Differ (.error .notFound) (.ok n)
  | vanished (n : Node) : Differ (.ok n) (.error .notFound)
  | number {n n' : Node} (h : n.places.length ≠ n'.places.length) : Differ (.ok n) (.ok n')
  | later {n n' : Node} (h : n'.Outdates n) : Differ (.ok n) (.ok n')
  | earlier {n n' : Node} (h : n.Outdates n') : Differ (.ok n) (.ok n')

/-- Two states that are the same, but for the order in which directories are listed. -/
inductive Same : Except Error Node → Except Error Node → Prop where
  | missing : Same (.error .notFound) (.error .notFound)
  | relisted {n n' : Node} (h : n.Relisted n') : Same (.ok n) (.ok n')

/-- Signatures tell apart exactly those states. -/
theorem differ_iff {state state' : Except Error Node} (h : Readable state) (h' : Readable state') :
    Differ state state' ↔ signatureOf state ≠ signatureOf state' := by
  constructor
  · intro hdiffer heq
    cases hdiffer with
    | appeared n => cases heq
    | vanished n => cases heq
    | number hnumber => exact hnumber (Signature.tree.inj heq).1
    | later hlater => exact Nat.ne_of_lt (Node.outdates_iff.mp hlater) (Signature.tree.inj heq).2
    | earlier hearlier =>
        exact Nat.ne_of_gt (Node.outdates_iff.mp hearlier) (Signature.tree.inj heq).2
  · intro hne
    cases h with
    | missing =>
        cases h' with
        | missing => exact absurd rfl hne
        | directory entries time => exact .appeared _
    | directory entries time =>
        cases h' with
        | missing => exact .vanished _
        | directory entries' time' =>
            generalize Node.directory entries time = n at hne ⊢
            generalize Node.directory entries' time' = n' at hne ⊢
            by_cases hnumber : n.places.length = n'.places.length
            · have hlatest : n.latest ≠ n'.latest := fun heq =>
                hne (congrArg₂ Signature.tree hnumber heq)
              by_cases hlater : n.latest < n'.latest
              · exact .later (Node.outdates_iff.mpr hlater)
              · exact .earlier (Node.outdates_iff.mpr (by omega))
            · exact .number hnumber

/-- States that are the same have one signature. -/
theorem Same.signatureOf_eq {state state' : Except Error Node} (h : Same state state') :
    signatureOf state = signatureOf state' := by
  cases h with
  | missing => rfl
  | relisted h => exact congrArg₂ Signature.tree h.places_perm.length_eq h.latest_eq

end Scan

/-! ## What a registry takes for a change -/

namespace Registry

open Scan

theorem changed_install (r : Registry) (s s' : Scan) :
    (r.install s).changed s' = true ↔ s.signature ≠ s'.signature := by
  simp [install, changed]

/-- A registry tells scans apart by their signatures as they are written. -/
theorem changed_install_text (r : Registry) (s s' : Scan) :
    (r.install s).changed s' = true ↔ s.signature.text ≠ s'.signature.text := by
  rw [changed_install, Ne, Ne, Signature.text_injective.eq_iff]

/-- A registry takes a state for changed since its last scan if and only if the signatures of both
are written differently, and they are if and only if signatures tell it from the state then. The
same state is not changed, and a state is changed after an operation which is
later than everything that the scan has seen, whatever else has happened in between. -/
theorem changed_iff_differ (r : Registry) {state state' : Except Error Node}
    (h : Readable state) (h' : Readable state') :
    ∃ s s', ofNode r.root state = .ok s ∧ ofNode r.root state' = .ok s' ∧
      ((r.install s).changed s' = true ↔ s.signature.text ≠ s'.signature.text) ∧
      ((r.install s).changed s' = true ↔ Differ state state') ∧
      (Same state state' → (r.install s).changed s' = false) ∧
      ∀ (n between n' : Node) (now : Nat), state = .ok n → state' = .ok n' →
        between.Edited now n' →
        (∀ path inner, n.Leads path inner → inner.modified < now) →
        (r.install s).changed s' = true := by
  obtain ⟨s, hs, hsignature⟩ := h.exists_scan r.root
  obtain ⟨s', hs', hsignature'⟩ := h'.exists_scan r.root
  have hchanged : (r.install s).changed s' = true ↔ Differ state state' := by
    rw [changed_install, differ_iff h h', hsignature, hsignature']
  refine ⟨s, s', hs, hs', changed_install_text r s s', hchanged, fun hsame => ?_, ?_⟩
  · rw [Bool.eq_false_iff, Ne, hchanged, differ_iff h h']
    exact fun hne => hne hsame.signatureOf_eq
  · rintro n between n' now rfl rfl hedited hearlier
    exact hchanged.mpr (.later (hedited.outdates hearlier))

/-- A shader file with some modification time. -/
def plainFile (time : Nat) : Node := .file "void main()\x7b\x7d" time

/-- A directory with two shaders. -/
def pair (time time' : Nat) : Node :=
  .directory [("a.fs", plainFile time), ("b.fs", plainFile time')] 1000

/-- A file is written after everything that the scan has seen, and the registry notices. -/
theorem changed_iff_differ_of_pair :
    Readable (.ok (pair 1000 1000)) ∧ Readable (.ok (pair 1001 1000)) ∧
      (pair 1000 1000).Edited 1001 (pair 1001 1000) ∧
      ∃ s s', ofNode "shaders" (.ok (pair 1000 1000)) = .ok s ∧
        ofNode "shaders" (.ok (pair 1001 1000)) = .ok s' ∧
        s.signature.text ≠ s'.signature.text ∧
        Differ (.ok (pair 1000 1000)) (.ok (pair 1001 1000)) ∧
        ((new "shaders").install s).changed s' = true := by
  have hbefore : Readable (.ok (pair 1000 1000)) := .directory _ _
  have hafter : Readable (.ok (pair 1001 1000)) := .directory _ _
  have hplain : ∀ name ∈ ["a.fs"], Walk.isHidden name = false := by decide
  have hedited : (pair 1000 1000).Edited 1001 (pair 1001 1000) := .write id hplain rfl
  have hearlier : ∀ path inner, (pair 1000 1000).Leads path inner → inner.modified < 1001 :=
    fun path inner hleads => Nat.lt_succ_of_le (hleads.modified_le.trans (by decide))
  obtain ⟨s, s', hs, hs', htext, hdiffer, -, hedit⟩ :=
    changed_iff_differ (new "shaders") hbefore hafter
  have hchanged := hedit _ _ _ 1001 rfl rfl hedited hearlier
  exact ⟨hbefore, hafter, hedited, s, s', hs, hs', htext.mp hchanged, hdiffer.mp hchanged,
    hchanged⟩

/-! ### Changes behind a date that lies ahead -/

/-- A later state is not taken for a change since a scan. -/
def Unnoticed (n n' : Node) : Prop :=
  ∃ s s', ofNode "shaders" (.ok n) = .ok s ∧ ofNode "shaders" (.ok n') = .ok s' ∧
    ((new "shaders").install s).changed s' = false

theorem unnoticed_of_signatureOf {entries entries' : List (String × Node)} {time time' : Nat}
    (h : signatureOf (.ok (.directory entries time)) =
      signatureOf (.ok (.directory entries' time'))) :
    Unnoticed (.directory entries time) (.directory entries' time') := by
  obtain ⟨s, hs, hsignature⟩ := (Readable.directory entries time).exists_scan "shaders"
  obtain ⟨s', hs', hsignature'⟩ := (Readable.directory entries' time').exists_scan "shaders"
  refine ⟨s, s', hs, hs', ?_⟩
  rw [Bool.eq_false_iff, Ne, changed_install, hsignature, hsignature']
  exact fun hne => hne h

/-- A file that gets an earlier modification time is no change. Behind a file that is dated ahead
a file can be written, one can be exchanged for another, and a directory can be made. -/
theorem unnoticed_changes :
    (pair 1000 1000).touch 999 ["a.fs"] = .ok (pair 999 1000) ∧
      Unnoticed (pair 1000 1000) (pair 999 1000) ∧
    (pair 1000 5000).write 1001 id ["a.fs"] = .ok (pair 1001 5000) ∧
      Unnoticed (pair 1000 5000) (pair 1001 5000) ∧
    ((pair 1000 5000).remove 1001 ["a.fs"]).bind
        (Node.write 1002 (fun _ => "void main()\x7b\x7d") ["c.fs"]) =
      .ok (.directory [("b.fs", plainFile 5000), ("c.fs", plainFile 1002)] 1002) ∧
      Unnoticed (pair 1000 5000)
        (.directory [("b.fs", plainFile 5000), ("c.fs", plainFile 1002)] 1002) ∧
    (pair 1000 5000).makeDirectories 1001 ["d"] =
      .ok (.directory [("a.fs", plainFile 1000), ("b.fs", plainFile 5000),
        ("d", .emptyDirectory 1001)] 1001) ∧
      Unnoticed (pair 1000 5000) (.directory [("a.fs", plainFile 1000), ("b.fs", plainFile 5000),
        ("d", .emptyDirectory 1001)] 1001) := by
  refine ⟨rfl, ?_, rfl, ?_, rfl, ?_, rfl, ?_⟩ <;>
    exact unnoticed_of_signatureOf (by decide +kernel)

end Registry

end LiveVisuals
