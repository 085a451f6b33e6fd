import LiveVisuals.Audio.Extractor

/-!
# What an audio value leaves behind

A value that can be used writes raw values under names that depend on its address only, and is
noted as heard. So a value makes an earlier one of the same address forgotten, although the
message with all levels writes names that other addresses write too. Extractors that read the
same raw values compute the same frames.

Main definitions:

- {lit}`Audio.writtenNames`, {lit}`Audio.writes?`: what a value writes.
- {lit}`Audio.Extractor.Alike`: extractors that differ in the order of raw values only.
- {lit}`Audio.Extractor.AlikeBut`: extractors that differ under some names only.

Main results:

- Theorem {lit}`Audio.Extractor.ingest_of_writes`: what becomes of an extractor that hears a
  value.
- Theorem {lit}`Audio.Extractor.ingest_cases`: the ways in which a message can be taken.
- Theorem {lit}`Audio.Extractor.AlikeBut.overwritten`: a value makes up for what differs under
  the names that it writes.
- Theorem {lit}`Audio.Extractor.Alike.tick`: extractors that are alike compute the same frames.
-/

namespace LiveVisuals

/-! ## Putting several values -/

namespace Keyed

variable {β : Type}

/-- Put values under names, in order. -/
def putAll (ws : List (String × β)) (t : Keyed β) : Keyed β :=
  ws.foldl (fun t w => put w.1 w.2 t) t

/-- Names that are not put keep their values. -/
theorem get?_putAll_of_not_mem {key : String} (ws : List (String × β)) (t : Keyed β)
    (h : key ∉ ws.map (·.1)) : get? key (putAll ws t) = get? key t := by
  induction ws generalizing t with
  | nil => rfl
  | cons w ws ih =>
      rw [List.map_cons, List.mem_cons, not_or] at h
      exact (ih _ h.2).trans (get?_put_of_ne w.2 t h.1)

/-- A name that is put has a value that does not depend on what was there. -/
theorem get?_putAll_of_mem {key : String} (ws : List (String × β)) (t u : Keyed β)
    (h : key ∈ ws.map (·.1)) : get? key (putAll ws t) = get? key (putAll ws u) := by
  induction ws generalizing t u with
  | nil => simp at h
  | cons w ws ih =>
      by_cases hlater : key ∈ ws.map (·.1)
      · exact ih _ _ hlater
      · have hkey : key = w.1 := by
          rw [List.map_cons, List.mem_cons] at h
          exact h.resolve_right hlater
        have hput (t : Keyed β) : get? key (putAll (w :: ws) t) = some w.2 := by
          refine (get?_putAll_of_not_mem ws _ hlater).trans ?_
          rw [hkey, get?_put_self]
        rw [hput, hput]

end Keyed

namespace Audio

variable {α : Type}

namespace Extractor

/-- An extractor that has heard values under some names. -/
def record (e : Extractor α) (ws : List (String × α)) : Extractor α :=
  { e with raw := Keyed.putAll ws e.raw, lastMessageAt := some e.clockMs }

/-! ## Extractors that are alike -/

/-- Extractors that differ at most in the order of their raw values. -/
def Alike (e e' : Extractor α) : Prop :=
  ∃ raw, e' = { e with raw := raw } ∧ ∀ key, Keyed.get? key raw = Keyed.get? key e.raw

/-- Extractors that differ at most in raw values under some names, and in when something was
last heard. -/
def AlikeBut (names : List String) (e e' : Extractor α) : Prop :=
  ∃ raw heardAt, e' = { e with raw := raw, lastMessageAt := heardAt } ∧
    ∀ key, key ∉ names → Keyed.get? key raw = Keyed.get? key e.raw

theorem Alike.refl (e : Extractor α) : e.Alike e := ⟨e.raw, rfl, fun _ => rfl⟩

theorem Alike.trans {e e' e'' : Extractor α} (h : e.Alike e') (h' : e'.Alike e'') :
    e.Alike e'' := by
  obtain ⟨raw, rfl, hraw⟩ := h
  obtain ⟨raw', rfl, hraw'⟩ := h'
  exact ⟨raw', rfl, fun key => (hraw' key).trans (hraw key)⟩

theorem AlikeBut.refl (names : List String) (e : Extractor α) : AlikeBut names e e :=
  ⟨e.raw, e.lastMessageAt, rfl, fun _ _ => rfl⟩

theorem AlikeBut.trans {names : List String} {e e' e'' : Extractor α} (h : AlikeBut names e e')
    (h' : AlikeBut names e' e'') : AlikeBut names e e'' := by
  obtain ⟨raw, heardAt, rfl, hraw⟩ := h
  obtain ⟨raw', heardAt', rfl, hraw'⟩ := h'
  exact ⟨raw', heardAt', rfl, fun key hkey => (hraw' key hkey).trans (hraw key hkey)⟩

/-- A value changes an extractor under the names that it writes only. -/
theorem alikeBut_record (e : Extractor α) (ws : List (String × α)) :
    AlikeBut (ws.map (·.1)) e (e.record ws) :=
  ⟨_, _, rfl, fun _ hkey => Keyed.get?_putAll_of_not_mem ws e.raw hkey⟩

/-- Extractors that are alike but for some names stay so when both hear a value. -/
theorem AlikeBut.record {names : List String} {e e' : Extractor α} (h : AlikeBut names e e')
    (ws : List (String × α)) : AlikeBut names (e.record ws) (e'.record ws) := by
  obtain ⟨raw, heardAt, rfl, hraw⟩ := h
  refine ⟨_, _, rfl, fun key hkey => ?_⟩
  by_cases hmem : key ∈ ws.map (·.1)
  · exact Keyed.get?_putAll_of_mem ws _ _ hmem
  · simp only [Extractor.record, Keyed.get?_putAll_of_not_mem ws _ hmem, hraw key hkey]

/-- A value makes up for what differs under the names that it writes. -/
theorem AlikeBut.overwritten {e e' : Extractor α} {ws : List (String × α)}
    (h : AlikeBut (ws.map (·.1)) e e') : (e.record ws).Alike (e'.record ws) := by
  obtain ⟨raw, heardAt, rfl, hraw⟩ := h
  refine ⟨_, rfl, fun key => ?_⟩
  by_cases hmem : key ∈ ws.map (·.1)
  · exact Keyed.get?_putAll_of_mem ws _ _ hmem
  · simp only [Extractor.record, Keyed.get?_putAll_of_not_mem ws _ hmem, hraw key hmem]

/-- Extractors that are alike stay so when both hear a value. -/
theorem Alike.record {e e' : Extractor α} (h : e.Alike e') (ws : List (String × α)) :
    (e.record ws).Alike (e'.record ws) := by
  obtain ⟨raw, rfl, hraw⟩ := h
  exact AlikeBut.overwritten ⟨raw, e.lastMessageAt, rfl, fun key _ => hraw key⟩

theorem Alike.frame {e e' : Extractor α} (h : e.Alike e') : e'.frame = e.frame := by
  obtain ⟨raw, rfl, -⟩ := h
  rfl

end Extractor

variable [Scalar α]

/-! ## What values write -/

/-- The names that a value of an address writes. -/
def writtenNames (address : String) : List String :=
  if address = Address.levels then
    [Address.bass, Address.lowMid, Address.mid, Address.highs, Address.level]
  else [address]

/-- What a value writes, if it can be used. -/
def writes? (address : String) (args : List (Json α)) : Option (List (String × α)) :=
  if address = Address.levels then
    match args.mapM usable? with
    | some (subBass :: bass :: lowMid :: mid :: highMid :: presence :: air :: loudness :: _) =>
        some
          [ (Address.bass, Scalar.greater subBass bass)
          , (Address.lowMid, lowMid)
          , (Address.mid, mid)
          , (Address.highs, Scalar.greater (Scalar.greater highMid presence) air)
          , (Address.level, loudness) ]
    | _ => none
  else (args.head?.bind usable?).map fun x => [(address, x)]

/-- Which names a value writes depends on its address only. -/
theorem names_of_writes {address : String} {args : List (Json α)} {ws : List (String × α)}
    (h : writes? address args = some ws) : ws.map (·.1) = writtenNames address := by
  unfold writes? at h
  unfold writtenNames
  split at h
  · next hlevels =>
      rw [if_pos hlevels]
      split at h
      · cases h
        rfl
      · cases h
  · next hlevels =>
      rw [if_neg hlevels]
      obtain ⟨x, -, rfl⟩ := Option.map_eq_some_iff.mp h
      rfl

namespace Extractor

/-- An extractor takes in a value exactly if that can be used. -/
theorem ingest?_eq (e : Extractor α) {address : String} (args : List (Json α))
    (h : isValueAddress address) :
    e.ingest? address args = (writes? address args).map e.record := by
  have haudio : isAudioAddress address = true := by
    unfold isValueAddress at h
    exact (Bool.and_eq_true_iff.mp h).1
  have hreset : address ≠ Address.reset := by
    unfold isValueAddress at h
    simpa using (Bool.and_eq_true_iff.mp h).2
  unfold ingest? writes?
  rw [haudio, if_neg (by simp), if_neg hreset]
  split
  · unfold ingestLevels
    rcases args.mapM usable? with _ | values
    · rfl
    · simp only [Option.bind_eq_bind, Option.bind_some]
      split
      · rfl
      · next hshort =>
          split
          · next h => exact absurd (Option.some.inj h) (hshort _ _ _ _ _ _ _ _ _)
          · rfl
  · rw [Option.map_map]
    rfl

/-- Whether a value can be used does not depend on who hears it. -/
theorem isSome_ingest? (e : Extractor α) {address : String} (args : List (Json α))
    (h : isValueAddress address) :
    (e.ingest? address args).isSome = (writes? address args).isSome := by
  rw [ingest?_eq e args h, Option.isSome_map]

/-- What becomes of an extractor that hears a value that can be used. -/
theorem ingest_of_writes (e : Extractor α) {address : String} {args : List (Json α)}
    {ws : List (String × α)} (h : isValueAddress address) (hws : writes? address args = some ws) :
    e.ingest address args = e.record ws := by
  simp [ingest, ingest?_eq e args h, hws]

/-- A message to the address of the reset resets, whatever it carries. -/
theorem ingest_reset (e : Extractor α) (args : List (Json α)) :
    e.ingest Address.reset args = e.reset :=
  rfl

/-- A message that is no value is a reset, or nobody records it. -/
theorem ingest?_of_not_value {address : String} (h : ¬isValueAddress address)
    (args : List (Json α)) :
    address = Address.reset ∨ ∀ e : Extractor α, e.ingest? address args = none := by
  by_cases haudio : isAudioAddress address
  · exact .inl (by simpa [isValueAddress, haudio] using h)
  · exact .inr fun e => by simp [ingest?, haudio]

/-- A message is passed over, resets, or is a value that can be used. -/
theorem ingest_cases (e : Extractor α) (address : String) (args : List (Json α)) :
    e.ingest address args = e ∨
      (address = Address.reset ∧ e.ingest address args = e.reset) ∨
      ∃ ws, writes? address args = some ws ∧ e.ingest address args = e.record ws := by
  by_cases hvalue : isValueAddress address
  · cases hws : writes? address args with
    | none => exact .inl (by simp [ingest, ingest?_eq e args hvalue, hws])
    | some ws => exact .inr (.inr ⟨ws, rfl, ingest_of_writes e hvalue hws⟩)
  · by_cases haudio : isAudioAddress address
    · have hreset : address = Address.reset := by simpa [isValueAddress, haudio] using hvalue
      exact .inr (.inl ⟨hreset, hreset ▸ e.ingest_reset args⟩)
    · exact .inl (by simp [ingest, ingest?, haudio])

/-- A value that comes before a reset is forgotten. -/
theorem reset_record (e : Extractor α) (ws : List (String × α)) :
    (e.record ws).reset = e.reset :=
  rfl

/-- Extractors that are alike are the same after a reset. -/
theorem Alike.reset {e e' : Extractor α} (h : e.Alike e') : e'.reset = e.reset := by
  obtain ⟨raw, rfl, -⟩ := h
  rfl

/-- Extractors that are alike stay so, whatever both hear. -/
theorem Alike.ingest {e e' : Extractor α} (h : e.Alike e') (address : String)
    (args : List (Json α)) : (e.ingest address args).Alike (e'.ingest address args) := by
  by_cases hvalue : isValueAddress address
  · unfold Extractor.ingest
    rw [ingest?_eq e args hvalue, ingest?_eq e' args hvalue]
    rcases writes? address args with _ | ws
    · exact h
    · exact h.record ws
  · by_cases haudio : isAudioAddress address
    · have hreset : address = Address.reset := by simpa [isValueAddress, haudio] using hvalue
      simp only [Extractor.ingest, Extractor.ingest?, hreset, h.reset]
      exact .refl _
    · simpa [Extractor.ingest, Extractor.ingest?, haudio] using h

/-! ## What can be seen -/

theorem Alike.isStale {e e' : Extractor α} (h : e.Alike e') : e'.isStale = e.isStale := by
  obtain ⟨raw, rfl, -⟩ := h
  rfl

theorem Alike.rawValue {e e' : Extractor α} (h : e.Alike e') (address : String) :
    e'.rawValue address = e.rawValue address := by
  obtain ⟨raw, rfl, hraw⟩ := h
  simp [Extractor.rawValue, hraw]

/-- Extractors that are alike hear the same features. -/
theorem Alike.liveFrame {e e' : Extractor α} (h : e.Alike e') (controls : Controls α) :
    e'.liveFrame controls = e.liveFrame controls := by
  have hvalue := h.rawValue
  obtain ⟨raw, rfl, hraw⟩ := h
  have hkicks : kicks { e with raw := raw } controls = e.kicks controls := by
    simp only [kicks, hvalue]
  have hrises : beatRises { e with raw := raw } = e.beatRises := by
    simp only [beatRises, hvalue]
  have hintensity : intensity { e with raw := raw } = e.intensity := by
    simp only [intensity, hvalue, hraw]
  simp only [Extractor.liveFrame, hkicks, hrises, hintensity, hvalue]

/-- Extractors that are alike compute the same frames, and stay alike. -/
theorem Alike.tick {e e' : Extractor α} (h : e.Alike e') (dt : α) (controls : Controls α) :
    (e.tick dt controls).Alike (e'.tick dt controls) := by
  have hadvance : (e.advance dt).Alike (e'.advance dt) := by
    obtain ⟨raw, rfl, hraw⟩ := h
    exact ⟨raw, rfl, hraw⟩
  have hvalue := hadvance.rawValue
  have hframe := hadvance.liveFrame controls
  have hstale := hadvance.isStale
  unfold Extractor.tick
  obtain ⟨raw, hraw', hraw⟩ := hadvance
  simp only [hstale]
  split
  · refine ⟨raw, ?_, hraw⟩
    simp only [tickStale, hvalue]
    simp only [hraw']
  · refine ⟨raw, ?_, hraw⟩
    simp only [tickLive, hframe, hvalue]
    simp only [hraw']

end Extractor

end Audio

end LiveVisuals
