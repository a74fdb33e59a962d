import SensorWatch.Proofs.Json.Numbers
import SensorWatch.Proofs.Json.Record

namespace SensorWatch.Json

variable {α β : Type} {ofJson : Decoder α} {toJson : α → Json} {numbers : α → List Binary64}

-- Reading undoes writing as long as all numbers are finite, and all numbers that are read are.
structure Faithful (ofJson : Decoder α) (toJson : α → Json) (numbers : α → List Binary64) :
    Prop where
  ofJson_toJson : ∀ a, (∀ x ∈ numbers a, x.isFinite) → ofJson (toJson a) = .ok a
  isFinite : ∀ j a, j.numbersFit → ofJson j = .ok a → ∀ x ∈ numbers a, x.isFinite

-- Writing and reading again changes nothing: neither a value with finite numbers nor one that was
-- read.
structure RoundTrips (ofJson : Decoder α) (toJson : α → Json) (numbers : α → List Binary64) :
    Prop where
  written : ∀ a, (∀ x ∈ numbers a, x.isFinite) → ofJson (toJson a) = .ok a
  read : ∀ j a, j.numbersFit → ofJson j = .ok a → ofJson (toJson a) = .ok a
  readText : ∀ s a, ofJson.ofText s = .ok a → ofJson (toJson a) = .ok a

theorem Decoder.ofJson_root {s : String} {a : α} (h : ofJson.ofText s = .ok a) :
    ofJson (Document.ofText s).root = .ok a := by
  unfold ofText at h
  simp only at h
  split at h
  case h_1 => cases h
  case h_2 hb =>
    rw [hb]
    exact ((ite_eq_iff.mp h).resolve_right nofun).2

theorem Faithful.roundTrips (h : Faithful ofJson toJson numbers) :
    RoundTrips ofJson toJson numbers := by
  have hr (j : Json) (a : α) (hj : j.numbersFit) (ha : ofJson j = .ok a) :
      ofJson (toJson a) = .ok a :=
    h.ofJson_toJson a (h.isFinite j a hj ha)
  refine ⟨h.ofJson_toJson, hr, fun s a ha => ?_⟩
  exact hr _ a (numbersFit_root s) (Decoder.ofJson_root ha)

theorem numbersFit_of_mem_parts {j part : Json} (hj : j.numbersFit) (hp : part ∈ j.parts) :
    part.numbersFit := by
  cases j
  case array => exact itemsFit_iff.mp hj part hp
  case object => exact membersFit_iff.mp hj part hp
  all_goals cases hp

namespace Decoder

theorem faithful_real : Faithful real ofReal ([·]) where
  ofJson_toJson x h := by
    rw [ofReal, if_pos (h x (.head _))]
    rfl
  isFinite j x hj hx := by
    unfold real at hx
    split at hx
    case h_1 =>
      cases hx
      simpa [numbersFit] using hj
    case h_2 i =>
      cases hx
      simpa using isFinite_ofInt_of_fits hj
    case h_3 => cases hx

theorem faithful_text : Faithful text .text fun _ => [] where
  ofJson_toJson _ _ := rfl
  isFinite := by simp

theorem faithful_uint32 : Faithful uint32 (fun n => .integer n.toNat) fun _ => [] where
  ofJson_toJson n _ := by
    have hn : (n.toNat : Int) ≤ (IntRange.unsigned 32).greatest := by
      have := n.toNat_lt
      simp only [IntRange.unsigned]
      omega
    rw [uint32, if_pos ⟨Int.natCast_nonneg _, hn⟩, Int.toNat_natCast, UInt32.ofNat_toNat]
  isFinite := by simp

theorem faithful_oneOf {choices : List α} {name : α → String}
    (h : ∀ a, choices.find? (name · = name a) = some a) :
    Faithful (oneOf choices name) (fun a => .text (name a)) fun _ => [] where
  ofJson_toJson a _ := by rw [oneOf, oneOf.choose, h a]
  isFinite := by simp

theorem faithful_nullable (h : Faithful ofJson toJson numbers)
    (hw : ∀ a, (∀ x ∈ numbers a, x.isFinite) → toJson a ≠ .null) :
    Faithful ofJson.nullable (ofOption toJson) (·.toList.flatMap numbers) where
  ofJson_toJson a hf := by
    cases a
    case none => rfl
    case some a =>
      have hf : ∀ x ∈ numbers a, x.isFinite := by simpa using hf
      have hn : ofJson.nullable (toJson a) = (ofJson (toJson a)).map some := by
        rw [nullable]
        exact hw a hf
      rw [ofOption, hn, h.ofJson_toJson a hf]
      rfl
  isFinite j a hj ha := by
    unfold nullable at ha
    split at ha
    case h_1 =>
      cases ha
      simp
    case h_2 =>
      obtain ⟨b, hb, rfl⟩ := Except.map_eq_ok_iff.mp ha
      simpa using h.isFinite j b hj hb

theorem faithful_nullable_real : Faithful real.nullable (ofOption ofReal) Option.toList := by
  have h := faithful_nullable faithful_real fun x hx => by
    rw [ofReal, if_pos (hx x (.head _))]
    nofun
  simpa only [List.flatMap_singleton'] using h

theorem all_map (h : Faithful ofJson toJson numbers) {as : List α}
    (hf : ∀ a ∈ as, ∀ x ∈ numbers a, x.isFinite) : ofJson.all (as.map toJson) = .ok as := by
  induction as
  case nil => rfl
  case cons a as ih =>
    rw [List.map_cons, all, h.ofJson_toJson a (hf a (.head _)), ih fun b hb => hf b (.tail _ hb)]
    rfl

theorem exists_of_mem_all {js : List Json} {as : List α} {a : α} (h : ofJson.all js = .ok as)
    (ha : a ∈ as) : ∃ j ∈ js, ofJson j = .ok a := by
  induction js generalizing as
  case nil =>
    cases h
    cases ha
  case cons j js ih =>
    rw [all] at h
    split at h
    case h_1 => cases h
    case h_2 b hb =>
      obtain ⟨bs, hbs, rfl⟩ := Except.map_eq_ok_iff.mp h
      rcases List.mem_cons.mp ha with rfl | ha
      case inl => exact ⟨j, .head _, hb⟩
      case inr =>
        have ⟨k, hk, hka⟩ := ih hbs ha
        exact ⟨k, .tail _ hk, hka⟩

theorem faithful_listOf (h : Faithful ofJson toJson numbers) :
    Faithful (listOf ofJson) (fun as => .array (as.map toJson)) (·.flatMap numbers) where
  ofJson_toJson as hf := by
    refine all_map h fun a ha x hx => hf x ?_
    exact List.mem_flatMap.mpr ⟨a, ha, hx⟩
  isFinite j as hj has x hx := by
    unfold listOf at has
    split at has
    case h_1 js =>
      have ⟨a, ha, hx⟩ := List.mem_flatMap.mp hx
      have ⟨j, hjs, hja⟩ := exists_of_mem_all has ha
      exact h.isFinite j a (itemsFit_iff.mp hj j hjs) hja x hx
    case h_2 => cases has

end Decoder

namespace Record

def Ensures (record : Record α) (P : α → Prop) : Prop :=
  ∀ find a, (∀ name j, find name = some j → j.numbersFit) → record.build find = .ok a → P a

section

variable {name : String} (h : Faithful ofJson toJson numbers)

include h

theorem ensures_required : (required name ofJson).Ensures fun a => ∀ x ∈ numbers a, x.isFinite := by
  intro find a hf ha
  simp only [required] at ha
  split at ha
  case h_1 j hj => exact h.isFinite j a (hf name j hj) ha
  case h_2 => cases ha

theorem ensures_optional {default : α} (hd : ∀ x ∈ numbers default, x.isFinite) :
    (optional name ofJson default).Ensures fun a => ∀ x ∈ numbers a, x.isFinite := by
  intro find a hf ha
  simp only [optional] at ha
  split at ha
  case h_1 j hj => exact h.isFinite j a (hf name j hj) ha
  case h_2 =>
    cases ha
    exact hd

end

theorem ensures_nullable {name : String} {toJson : Option α → Json}
    {numbers : Option α → List Binary64} (h : Faithful ofJson.nullable toJson numbers)
    (hn : ∀ x ∈ numbers none, x.isFinite) :
    (nullable name ofJson).Ensures fun a => ∀ x ∈ numbers a, x.isFinite :=
  fun find => ensures_optional h hn find

section

variable {P : α → Prop} {Q : β → Prop} {x : Record α}

theorem Ensures.seq {f : Record (α → β)} (hf : f.Ensures fun g => ∀ a, P a → Q (g a))
    (hx : x.Ensures P) : (f <*> x).Ensures Q := by
  intro find b hn hb
  obtain ⟨g, a, hg, ha, rfl⟩ := build_seq_eq_ok_iff.mp hb
  exact hf find g hn hg a (hx find a hn ha)

theorem Ensures.map {g : α → β} (hx : x.Ensures P) (hg : ∀ a, P a → Q (g a)) :
    (g <$> x).Ensures Q := by
  intro find b hn hb
  obtain ⟨a, ha, rfl⟩ := build_map_eq_ok_iff.mp hb
  exact hg a (hx find a hn ha)

theorem Ensures.of_decoder (hx : x.Ensures P) {j : Json} {a : α} (hj : j.numbersFit)
    (ha : x.decoder j = .ok a) : P a := by
  have ⟨all, hb, hp⟩ := exists_build_of_decoder ha
  refine hx (all.lookup ·) a (fun name part hl => ?_) hb
  have ⟨_, _, he, _⟩ := List.lookup_eq_some_iff.mp hl
  exact numbersFit_of_mem_parts hj (hp (name, part) (by simp [he]))

end

theorem faithful {record : Record α} (hn : (record.fields.map (·.name)).Nodup)
    (hk : ∀ a, (toJson a).members.map (·.1) = record.fields.map (·.name))
    (hj : ∀ a, toJson a = .object (keyed (toJson a).members))
    (hg : ∀ a, (∀ x ∈ numbers a, x.isFinite) → record.Gives ((toJson a).members.lookup ·) a)
    (he : record.Ensures fun a => ∀ x ∈ numbers a, x.isFinite) :
    Faithful record.decoder toJson numbers where
  ofJson_toJson a h := by
    rw [hj a]
    exact decoder_keyed (hk a ▸ hn) (hk a) (hg a h)
  isFinite _ _ hj ha := he.of_decoder hj ha

end Record
end SensorWatch.Json
