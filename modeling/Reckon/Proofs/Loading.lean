import Mathlib.Data.List.Forall2
import Mathlib.Tactic.ByContra
import Reckon.Plain.Tree
import Reckon.Settings.Sources
import Reckon.Proofs.Outcome

/-! Settings from a document, whatever reader it comes from: what of it they are taken from, when
they are, and what is reported otherwise. Among what is reported there are two things that are no
faults of settings: keys that are no texts cannot be listed, and a depth with too many digits cannot
be written. -/
namespace Reckon
open Yaml Outcome

theorem mapM_eq_some_iff {α β : Type} {f : α → Option β} {xs : List α} {ys : List β} :
    xs.mapM f = some ys ↔ List.Forall₂ (fun x y => f x = some y) xs ys := by
  induction xs generalizing ys with
  | nil => cases ys <;> simp
  | cons x xs ih =>
    rw [List.mapM_cons]
    cases ys with
    | nil => simp [Option.bind_eq_some_iff]
    | cons y ys => simp [Option.bind_eq_some_iff, ih]

namespace Settings
variable {R : Reader} {path : String} {v w : R.Value} {m inner : Mapping R.Value}

/-- Where a document has its settings: under a key of their own, or without that at the top. -/
inductive Section (R : Reader) : R.Value → R.Value → Prop where
  | own {v w : R.Value} {m : Mapping R.Value} :
      R.layer v = .mapping m → (.text sectionKey, w) ∈ m.entries → Section R v w
  | top {v : R.Value} :
      (∀ m, R.layer v = .mapping m → ∀ w, (.text sectionKey, w) ∉ m.entries) → Section R v v

def Settles (R : Reader) (v : R.Value) (m : Mapping R.Value) : Prop :=
  ∃ w, Section R v w ∧ R.Maps w m

structure Gives (R : Reader) (m : Mapping R.Value) (s : Settings) : Prop where
  known : strangers m = []
  depth : (∃ w, (.text depthKey, w) ∈ m.entries ∧ R.layer w = .scalar (.int s.maxDepth)) ∨
    (∀ w, (.text depthKey, w) ∉ m.entries) ∧ s.maxDepth = defaultDepth
  validates : s.validates = true ↔
    ∃ w, (.text validatesKey, w) ∈ m.entries ∧ (R.layer w).truth = true

/-- What is wrong with a mapping that gives none. -/
inductive Objects (R : Reader) (path : String) (m : Mapping R.Value) :
    Failure SettingsFault → Prop where
  | unknownKeys {names : List String} : names ≠ [] → strangers m = names.map .text →
      Objects R path m (.fault (.unknownKeys path (Text.ascending names)))
  | unlistableKeys {key : Scalar} : key ∈ strangers m → (∀ name, key ≠ .text name) →
      Objects R path m (.crash (.unlistableKeys (strangers m)))
  | depthNotWhole {d : R.Value} : strangers m = [] → (.text depthKey, d) ∈ m.entries →
      (∀ i, R.layer d ≠ .scalar (.int i)) → Objects R path m (.fault (.depthNotWhole path))
  | depthBelowOne {d : R.Value} {i : Int} : strangers m = [] → (.text depthKey, d) ∈ m.entries →
      R.layer d = .scalar (.int i) → i < 1 → isWritable i = true →
        Objects R path m (.fault (.depthBelowOne i))
  | unwritableDepth {d : R.Value} {i : Int} : strangers m = [] → (.text depthKey, d) ∈ m.entries →
      R.layer d = .scalar (.int i) → i < 1 → isWritable i = false →
        Objects R path m (.crash (.unwritableDepth i))

inductive Refuses (R : Reader) (path : String) (v : R.Value) : Failure SettingsFault → Prop where
  | noMapping : (∀ m, ¬ R.Maps v m) → Refuses R path v (.fault (.noMapping path))
  | noMappingInSection {m : Mapping R.Value} {w : R.Value} :
      R.layer v = .mapping m → (.text sectionKey, w) ∈ m.entries → (∀ inner, ¬ R.Maps w inner) →
        Refuses R path v (.fault (.noMappingInSection path))
  | mapping {m : Mapping R.Value} {f : Failure SettingsFault} :
      Settles R v m → Objects R path m f → Refuses R path v f

/-! Each step does what is said of it. -/

theorem sectionOf_of_settles (h : Settles R v m) : sectionOf R path v = .ok m := by
  obtain ⟨w, hsection, hmaps⟩ := h
  unfold sectionOf
  cases hsection with
  | own hlayer hw =>
    simp only [Layer.orEmpty_eq_mapping_iff.2 (.inl hlayer),
      Mapping.lookup?_eq_some_iff.2 hw, Option.map_some,
      Layer.orEmpty_eq_mapping_iff.2 hmaps]
  | top hnone =>
    have hlookup : m.lookup? sectionKey = none := by
      rw [Mapping.lookup?_eq_none_iff]
      obtain hlayer | ⟨-, rfl⟩ := hmaps
      · exact hnone m hlayer
      · simp [Mapping.empty]
    simp only [Layer.orEmpty_eq_mapping_iff.2 hmaps, hlookup, Option.map_none]

theorem sectionOf_of_not_maps (h : ∀ m, ¬ R.Maps v m) :
    sectionOf R path v = .error (.fault (.noMapping path)) := by
  unfold sectionOf
  cases hv : (R.layer v).orEmpty with
  | mapping m => exact absurd (Layer.orEmpty_eq_mapping_iff.1 hv) (h m)
  | scalar | list | pair | set => rfl

theorem sectionOf_of_not_maps_inside (hv : R.layer v = .mapping m)
    (hw : (.text sectionKey, w) ∈ m.entries) (h : ∀ inner, ¬ R.Maps w inner) :
    sectionOf R path v = .error (.fault (.noMappingInSection path)) := by
  have houter : (R.layer v).orEmpty = .mapping m := Layer.orEmpty_eq_mapping_iff.2 (.inl hv)
  simp only [sectionOf, houter, Mapping.lookup?_eq_some_iff.2 hw, Option.map_some]
  cases hinner : (R.layer w).orEmpty with
  | mapping inner => exact absurd (Layer.orEmpty_eq_mapping_iff.1 hinner) (h inner)
  | scalar | list | pair | set => rfl

theorem mapM_text?_eq_some_iff {keys : List Scalar} {names : List String} :
    keys.mapM Scalar.text? = some names ↔ keys = names.map .text := by
  rw [mapM_eq_some_iff, ← List.forall₂_eq_eq_eq, List.forall₂_map_right_iff]
  simp only [Scalar.text?_eq_some_iff]

theorem checkKeys_of_known (h : strangers m = []) : checkKeys path m = .ok () := by
  rw [checkKeys, h]

theorem checkKeys_of_names {names : List String} (hne : names ≠ [])
    (h : strangers m = names.map .text) :
    checkKeys path m = .error (.fault (.unknownKeys path (Text.ascending names))) := by
  cases names with
  | nil => exact absurd rfl hne
  | cons name names =>
    rw [checkKeys, h, List.map_cons]
    simp only [mapM_text?_eq_some_iff.2 (List.map_cons (f := Scalar.text)).symm]

theorem checkKeys_of_nameless {key : Scalar} (hkey : key ∈ strangers m)
    (hnameless : ∀ name, key ≠ .text name) :
    checkKeys path m = .error (.crash (.unlistableKeys (strangers m))) := by
  have hnone : (strangers m).mapM Scalar.text? = none := by
    refine Option.eq_none_iff_forall_ne_some.2 fun names hnames => ?_
    rw [mapM_text?_eq_some_iff.1 hnames] at hkey
    obtain ⟨name, -, hname⟩ := List.mem_map.1 hkey
    exact hnameless name hname.symm
  rw [checkKeys]
  cases hall : strangers m with
  | nil => cases hall ▸ hkey
  | cons first rest =>
    rw [hall] at hnone
    simp only [hnone]

theorem depthOf_of_int {d : R.Value} {i : Int} (hd : (.text depthKey, d) ∈ m.entries)
    (hi : R.layer d = .scalar (.int i)) : depthOf R path m = .ok i := by
  rw [depthOf, Mapping.lookup?_eq_some_iff.2 hd, Option.map_some, hi]

theorem depthOf_of_none (h : ∀ w, (.text depthKey, w) ∉ m.entries) :
    depthOf R path m = .ok defaultDepth := by
  rw [depthOf, Mapping.lookup?_eq_none_iff.2 h, Option.map_none]

theorem depthOf_of_not_int {d : R.Value} (hd : (.text depthKey, d) ∈ m.entries)
    (hnot : ∀ i, R.layer d ≠ .scalar (.int i)) :
    depthOf R path m = .error (.fault (.depthNotWhole path)) := by
  rw [depthOf, Mapping.lookup?_eq_some_iff.2 hd, Option.map_some]
  split
  · next heq => cases heq
  · next heq => exact absurd (Option.some.inj heq) (hnot _)
  · rfl

theorem validatesOf_iff (R : Reader) (m : Mapping R.Value) : validatesOf R m = true ↔
    ∃ w, (.text validatesKey, w) ∈ m.entries ∧ (R.layer w).truth = true := by
  rw [validatesOf, Option.any_eq_true]
  simp only [Mapping.lookup?_eq_some_iff]

theorem ofMapping_of_depth {i : Int} (hknown : strangers m = [])
    (hdepth : depthOf R path m = .ok i) :
    ofMapping R path m =
      match make i (validatesOf R m) with
      | .ok s => .ok s
      | .error f => .error (if isWritable i then .fault f else .crash (.unwritableDepth i)) := by
  rw [ofMapping, checkKeys_of_known hknown, hdepth]
  rfl

theorem ofMapping_of_gives {s : Settings} (hs : Gives R m s) : ofMapping R path m = .ok s := by
  have hdepth : depthOf R path m = .ok (s.maxDepth : Int) := by
    obtain ⟨w, hin, hw⟩ | ⟨hnone, hdefault⟩ := hs.depth
    · exact depthOf_of_int hin hw
    · rw [depthOf_of_none hnone, hdefault]
  have hvalidates : validatesOf R m = s.validates :=
    Bool.eq_iff_iff.2 ((validatesOf_iff R m).trans hs.validates.symm)
  have hmake : make s.maxDepth s.validates = .ok s := by
    rw [make, dif_pos (by exact_mod_cast s.one_le_maxDepth)]
    rfl
  rw [ofMapping_of_depth hs.known hdepth, hvalidates, hmake]

theorem ofMapping_of_low {i : Int} (hknown : strangers m = [])
    (hdepth : depthOf R path m = .ok i) (hlow : i < 1) :
    ofMapping R path m = .error
      (if isWritable i then .fault (.depthBelowOne i) else .crash (.unwritableDepth i)) := by
  have hmake : ∀ validates, make i validates = .error (.depthBelowOne i) := fun _ =>
    dif_neg (by omega)
  rw [ofMapping_of_depth hknown hdepth, hmake]

theorem ofMapping_of_objects {f : Failure SettingsFault} (hf : Objects R path m f) :
    ofMapping R path m = .error f := by
  cases hf with
  | unknownKeys hne hnames =>
    rw [ofMapping, checkKeys_of_names hne hnames]
    rfl
  | unlistableKeys hkey hnameless =>
    rw [ofMapping, checkKeys_of_nameless hkey hnameless]
    rfl
  | depthNotWhole hknown hd hnot =>
    rw [ofMapping, checkKeys_of_known hknown, depthOf_of_not_int hd hnot]
    rfl
  | depthBelowOne hknown hd hi hlow hwritable =>
    rw [ofMapping_of_low hknown (depthOf_of_int hd hi) hlow, if_pos hwritable]
  | unwritableDepth hknown hd hi hlow hwritable =>
    rw [ofMapping_of_low hknown (depthOf_of_int hd hi) hlow, if_neg (by simp [hwritable])]

/-! And there is nothing of which nothing is said. -/

theorem exists_gives (h : strangers m = []) {i : Int} (hi : 1 ≤ i)
    (hdepth : (∃ w, (.text depthKey, w) ∈ m.entries ∧ R.layer w = .scalar (.int i)) ∨
      (∀ w, (.text depthKey, w) ∉ m.entries) ∧ i = defaultDepth) : ∃ s, Gives R m s := by
  have hcast : ((i.toNat : Nat) : Int) = i := Int.toNat_of_nonneg (by omega)
  refine ⟨⟨i.toNat, validatesOf R m, by omega⟩, h, ?_, validatesOf_iff R m⟩
  simp only [hcast]
  obtain hone | ⟨hnone, hdefault⟩ := hdepth
  · exact .inl hone
  · exact .inr ⟨hnone, by omega⟩

theorem names_or_nameless (keys : List Scalar) :
    (∃ names : List String, keys = names.map .text) ∨ ∃ key ∈ keys, ∀ name, key ≠ .text name := by
  induction keys with
  | nil => exact .inl ⟨[], rfl⟩
  | cons key keys ih =>
    by_cases hname : ∃ name, key = .text name
    · obtain ⟨name, rfl⟩ := hname
      obtain ⟨names, rfl⟩ | ⟨k, hk, hnameless⟩ := ih
      · exact .inl ⟨name :: names, rfl⟩
      · exact .inr ⟨k, List.mem_cons_of_mem _ hk, hnameless⟩
    · exact .inr ⟨key, List.mem_cons_self, not_exists.1 hname⟩

theorem gives_or_objects (R : Reader) (path : String) (m : Mapping R.Value) :
    (∃ s, Gives R m s) ∨ ∃ f, Objects R path m f := by
  -- The cases come in the order of the checks, so each has the outcome of those before it.
  by_cases hknown : strangers m = []
  · by_cases hdepth : ∃ d, (.text depthKey, d) ∈ m.entries
    · obtain ⟨d, hd⟩ := hdepth
      by_cases hint : ∃ i, R.layer d = .scalar (.int i)
      · obtain ⟨i, hi⟩ := hint
        by_cases hlow : 1 ≤ i
        · exact .inl (exists_gives hknown hlow (.inl ⟨d, hd, hi⟩))
        · cases hwritable : isWritable i with
          | true => exact .inr ⟨_, .depthBelowOne hknown hd hi (by omega) hwritable⟩
          | false => exact .inr ⟨_, .unwritableDepth hknown hd hi (by omega) hwritable⟩
      · exact .inr ⟨_, .depthNotWhole hknown hd (not_exists.1 hint)⟩
    · exact .inl (exists_gives hknown (by decide) (.inr ⟨not_exists.1 hdepth, rfl⟩))
  · obtain ⟨names, hnames⟩ | ⟨key, hkey, hnameless⟩ := names_or_nameless (strangers m)
    · refine .inr ⟨_, .unknownKeys (fun hnil => hknown ?_) hnames⟩
      rw [hnames, hnil, List.map_nil]
    · exact .inr ⟨_, .unlistableKeys hkey hnameless⟩

theorem settles_or_not (R : Reader) (v : R.Value) : (∃ m, Settles R v m) ∨
    (∀ m, ¬ R.Maps v m) ∨
    ∃ m w, R.layer v = .mapping m ∧ (.text sectionKey, w) ∈ m.entries ∧
      ∀ inner, ¬ R.Maps w inner := by
  by_cases hsection : ∃ m w, R.layer v = .mapping m ∧ (.text sectionKey, w) ∈ m.entries
  · obtain ⟨m, w, hv, hw⟩ := hsection
    by_cases hinner : ∃ inner, R.Maps w inner
    · obtain ⟨inner, hinner⟩ := hinner
      exact .inl ⟨inner, w, .own hv hw, hinner⟩
    · exact .inr (.inr ⟨m, w, hv, hw, not_exists.1 hinner⟩)
  · by_cases hmaps : ∃ m, R.Maps v m
    · obtain ⟨m, hmaps⟩ := hmaps
      exact .inl ⟨m, v, .top fun outer hv w hw => hsection ⟨outer, w, hv, hw⟩, hmaps⟩
    · exact .inr (.inl (not_exists.1 hmaps))

section
variable {s : Settings} {f : Failure SettingsFault}

theorem ofValue_of_gives (h : Settles R v m) (hs : Gives R m s) : ofValue R path v = .ok s := by
  rw [ofValue, sectionOf_of_settles h]
  exact ofMapping_of_gives hs

theorem ofValue_of_refuses (h : Refuses R path v f) : ofValue R path v = .error f := by
  cases h with
  | noMapping hnot =>
    rw [ofValue, sectionOf_of_not_maps hnot]
    rfl
  | noMappingInSection hv hw hnot =>
    rw [ofValue, sectionOf_of_not_maps_inside hv hw hnot]
    rfl
  | mapping hsettles hf =>
    rw [ofValue, sectionOf_of_settles hsettles]
    exact ofMapping_of_objects hf

theorem gives_or_refuses (R : Reader) (path : String) (v : R.Value) :
    (∃ m s, Settles R v m ∧ Gives R m s) ∨ ∃ f, Refuses R path v f := by
  obtain ⟨m, hsettles⟩ | hnot | ⟨m, w, hv, hw, hnot⟩ := settles_or_not R v
  · obtain ⟨s, hs⟩ | ⟨f, hf⟩ := gives_or_objects R path m
    · exact .inl ⟨m, s, hsettles, hs⟩
    · exact .inr ⟨f, .mapping hsettles hf⟩
  · exact .inr ⟨_, .noMapping hnot⟩
  · exact .inr ⟨_, .noMappingInSection hv hw hnot⟩

theorem ofValue_eq_ok_iff : ofValue R path v = .ok s ↔ ∃ m, Settles R v m ∧ Gives R m s := by
  constructor
  · intro h
    obtain ⟨m, s', hsettles, hs⟩ | ⟨f, hf⟩ := gives_or_refuses R path v
    · cases h.symm.trans (ofValue_of_gives hsettles hs)
      exact ⟨m, hsettles, hs⟩
    · cases h.symm.trans (ofValue_of_refuses hf)
  · rintro ⟨m, hsettles, hs⟩
    exact ofValue_of_gives hsettles hs

theorem ofValue_eq_error_iff : ofValue R path v = .error f ↔ Refuses R path v f := by
  constructor
  · intro h
    obtain ⟨m, s, hsettles, hs⟩ | ⟨f', hf⟩ := gives_or_refuses R path v
    · cases h.symm.trans (ofValue_of_gives hsettles hs)
    · cases h.symm.trans (ofValue_of_refuses hf)
      exact hf
  · exact ofValue_of_refuses

theorem ofDocument_eq {content : String} (h : R.load content = .ok v) :
    ofDocument R path content = ofValue R path v := by
  rw [ofDocument, h]

end

theorem strangers_eq_nil_iff : strangers m = [] ↔
    ∀ e ∈ m.entries, e.1 = .text depthKey ∨ e.1 = .text validatesKey := by
  rw [strangers, List.filter_eq_nil_iff, List.forall_mem_map]
  simp only [isKnown, Bool.not_eq_true, Bool.not_eq_false', Bool.or_eq_true, decide_eq_true_eq]

theorem exists_gives_iff : (∃ s, Gives R m s) ↔
    (∀ e ∈ m.entries, e.1 = .text depthKey ∨ e.1 = .text validatesKey) ∧
    ∀ d, (.text depthKey, d) ∈ m.entries → ∃ i, R.layer d = .scalar (.int i) ∧ 1 ≤ i := by
  rw [← strangers_eq_nil_iff]
  constructor
  · rintro ⟨s, hs⟩
    refine ⟨hs.known, fun d hd => ?_⟩
    obtain ⟨w, hin, hw⟩ | ⟨hnone, -⟩ := hs.depth
    · have hsame := (Mapping.lookup?_eq_some_iff.2 hd).symm.trans
        (Mapping.lookup?_eq_some_iff.2 hin)
      cases hsame
      exact ⟨s.maxDepth, hw, by exact_mod_cast s.one_le_maxDepth⟩
    · exact absurd hd (hnone d)
  · rintro ⟨hknown, hdepth⟩
    by_cases hin : ∃ d, (.text depthKey, d) ∈ m.entries
    · obtain ⟨d, hd⟩ := hin
      obtain ⟨i, hi, hpos⟩ := hdepth d hd
      exact exists_gives hknown hpos (.inl ⟨d, hd, hi⟩)
    · exact exists_gives hknown (by decide) (.inr ⟨not_exists.1 hin, rfl⟩)

structure Reportable (R : Reader) (m : Mapping R.Value) : Prop where
  keys : ∀ key ∈ strangers m, ∃ name, key = .text name
  depth : strangers m = [] → ∀ d i, (.text depthKey, d) ∈ m.entries →
    R.layer d = .scalar (.int i) → i < 1 → isWritable i = true

theorem objects_only_faults_iff :
    (∀ f, Objects R path m f → ∃ g, f = .fault g) ↔ Reportable R m := by
  constructor
  · intro h
    refine ⟨fun key hkey => ?_, fun hknown d i hd hi hlow => ?_⟩
    · by_contra hnameless
      obtain ⟨g, hg⟩ := h _ (.unlistableKeys hkey (not_exists.1 hnameless))
      cases hg
    · by_contra hwritable
      obtain ⟨g, hg⟩ := h _ (.unwritableDepth hknown hd hi hlow (Bool.eq_false_iff.2 hwritable))
      cases hg
  · rintro ⟨hnames, hwritable⟩ f hf
    cases hf with
    | unknownKeys | depthNotWhole | depthBelowOne => exact ⟨_, rfl⟩
    | unlistableKeys hkey hnameless =>
      obtain ⟨name, hname⟩ := hnames _ hkey
      exact absurd hname (hnameless name)
    | unwritableDepth hknown hd hi hlow hnot =>
      cases hnot.symm.trans (hwritable hknown _ _ hd hi hlow)

/-- A document is loaded exactly if what stands under its section is a mapping of settings, with a
depth of one or more; the settings are what this says. Whatever else is the case is reported as one
of seven failures. Two of them are no faults of settings, and it comes to them with a key that is no
text among those that are unknown, or with a depth below one of too many digits; in no other way. -/
theorem settings_of_document {R : Reader} {path content : String} {v : R.Value}
    (h : R.load content = .ok v) :
    (∀ s, ofDocument R path content = .ok s ↔ ∃ m, Settles R v m ∧ Gives R m s) ∧
    ((∃ s, ofDocument R path content = .ok s) ↔ ∃ m, Settles R v m ∧
      (∀ e ∈ m.entries, e.1 = .text depthKey ∨ e.1 = .text validatesKey) ∧
      ∀ d, (.text depthKey, d) ∈ m.entries → ∃ i, R.layer d = .scalar (.int i) ∧ 1 ≤ i) ∧
    (∀ s, ofDocument R path content = .ok s → 1 ≤ s.maxDepth) ∧
    (∀ f, ofDocument R path content = .error f ↔ Refuses R path v f) ∧
    ((∀ f, ofDocument R path content = .error f → ∃ g, f = .fault g) ↔
      ∀ m, Settles R v m → Reportable R m) := by
  rw [ofDocument_eq h]
  refine ⟨fun s => ofValue_eq_ok_iff, ?_, fun s _ => s.one_le_maxDepth,
    fun f => ofValue_eq_error_iff, ?_⟩
  · simp only [ofValue_eq_ok_iff]
    rw [exists_comm]
    refine exists_congr fun m => ?_
    rw [exists_and_left, exists_gives_iff]
  · simp only [ofValue_eq_error_iff]
    constructor
    · intro hfaults m hsettles
      exact objects_only_faults_iff.1 fun f hf => hfaults f (.mapping hsettles hf)
    · intro hall f hf
      cases hf with
      | noMapping | noMappingInSection => exact ⟨_, rfl⟩
      | mapping hsettles hf => exact objects_only_faults_iff.2 (hall _ hsettles) f hf

set_option maxRecDepth 8000 in
theorem settings_of_section :
    let inner : Plain.Tree := .mapping [(.text depthKey, .scalar (.int 4))]
    Plain.reader.load "solver:\n  max_depth: 4\n" = .ok (.mapping [(.text sectionKey, inner)]) ∧
      ofDocument Plain.reader "f.yaml" "solver:\n  max_depth: 4\n" =
        .ok ⟨4, false, by decide⟩ := by
  intro inner
  have hload : Plain.reader.load "solver:\n  max_depth: 4\n" =
      .ok (.mapping [(.text sectionKey, inner)]) := by
    change Plain.load _ = _
    cbv
  let m : Mapping Plain.Tree := Plain.mappingOf [(.text depthKey, .scalar (.int 4))]
  have hsettles : Settles Plain.reader (.mapping [(.text sectionKey, inner)]) m :=
    ⟨inner, .own rfl List.mem_cons_self, .inl rfl⟩
  have hgives : Gives Plain.reader m ⟨4, false, by decide⟩ := by
    refine ⟨rfl, .inl ⟨_, List.mem_cons_self, rfl⟩, (fun h => by cases h), ?_⟩
    rintro ⟨w, hw, -⟩
    have hkey : Scalar.text validatesKey = .text depthKey :=
      congrArg Prod.fst (List.mem_singleton.1 hw)
    exact absurd hkey (by decide)
  exact ⟨hload, ((settings_of_document hload).1 _).2 ⟨m, hsettles, hgives⟩⟩

set_option maxRecDepth 8000 in
/-- So it is not only faults that are reported: here it is a key that is a number. -/
theorem document_with_nameless_key :
    ofDocument Plain.reader "f.yaml" "1: 2\n" = .error (.crash (.unlistableKeys [.int 1])) ∧
    ¬ ∀ (R : Reader) (path content : String) (v : R.Value), R.load content = .ok v →
      (∃ s, ofDocument R path content = .ok s) ∨
        ∃ g, ofDocument R path content = .error (.fault g) := by
  have hload : Plain.reader.load "1: 2\n" = .ok (.mapping [(.int 1, .scalar (.int 2))]) := by
    change Plain.load _ = _
    cbv
  have hfails : ofDocument Plain.reader "f.yaml" "1: 2\n" =
      .error (.crash (.unlistableKeys [.int 1])) := by
    rw [ofDocument_eq hload]
    rfl
  refine ⟨hfails, fun h => ?_⟩
  obtain ⟨s, hs⟩ | ⟨g, hg⟩ := h Plain.reader "f.yaml" _ _ hload
  · cases hfails.symm.trans hs
  · cases hfails.symm.trans hg

end Settings
end Reckon
