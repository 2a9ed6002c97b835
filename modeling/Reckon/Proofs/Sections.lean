import Mathlib.Data.List.Nodup
import Reckon.Plain.Coercion
import Reckon.Proofs.Loading

/-! Bindings from a document of either layout, whatever reader it comes from. What decides between
the two is whether the only key of the document names a section and has a mapping under it; a
binding has a number there, and so an unknown may have the name of the section as well. -/
namespace Reckon
open Yaml

theorem exists_forall₂_iff {α β : Type} {p : α → β → Prop} {xs : List α} :
    (∃ ys, List.Forall₂ p xs ys) ↔ ∀ x ∈ xs, ∃ y, p x y := by
  induction xs with
  | nil => simp
  | cons x xs ih =>
    rw [List.forall_mem_cons, ← ih]
    constructor
    · rintro ⟨_, _ | ⟨hy, hys⟩⟩
      exact ⟨⟨_, hy⟩, _, hys⟩
    · rintro ⟨⟨y, hy⟩, ys, hys⟩
      exact ⟨y :: ys, .cons hy hys⟩

namespace Bindings

section
variable {b : Bindings} {name : String} {x : Float} {values : List (String × Float)}

theorem keys_insert_of_mem (h : name ∈ b.map Prod.fst) :
    (insert name x b).map Prod.fst = b.map Prod.fst := by
  induction b with
  | nil => cases h
  | cons entry b ih =>
    obtain ⟨other, y⟩ := entry
    unfold insert
    split
    · next heq => simp only [List.map_cons, heq]
    · next hne =>
      have hrest := (List.mem_cons.1 h).resolve_left (Ne.symm hne)
      simp only [List.map_cons, ih hrest]

theorem insert_of_not_mem (h : name ∉ b.map Prod.fst) : insert name x b = b ++ [(name, x)] := by
  induction b with
  | nil => rfl
  | cons entry b ih =>
    obtain ⟨other, y⟩ := entry
    obtain ⟨hne, hrest⟩ := not_or.1 (List.mem_cons.not.1 h)
    rw [insert, if_neg (Ne.symm hne), ih hrest, List.cons_append]

theorem nodup_keys_insert (h : (b.map Prod.fst).Nodup) :
    ((insert name x b).map Prod.fst).Nodup := by
  by_cases hname : name ∈ b.map Prod.fst
  · rw [keys_insert_of_mem hname]
    exact h
  · rw [insert_of_not_mem hname, List.map_append, List.map_singleton]
    exact List.nodup_append.2 ⟨h, List.nodup_singleton name, by grind⟩

theorem nodup_keys_insertAll (h : (b.map Prod.fst).Nodup) :
    ((b.insertAll values).map Prod.fst).Nodup := by
  induction values generalizing b with
  | nil => exact h
  | cons value values ih => exact ih (nodup_keys_insert h)

theorem insertAll_eq_append (h : ((b ++ values).map Prod.fst).Nodup) :
    b.insertAll values = b ++ values := by
  induction values generalizing b with
  | nil => exact (List.append_nil b).symm
  | cons value values ih =>
    obtain ⟨name, x⟩ := value
    have hsnoc : b ++ (name, x) :: values = b ++ [(name, x)] ++ values := by simp
    have hname : name ∉ b.map Prod.fst := by
      intro hmem
      rw [List.map_append, List.map_cons] at h
      exact (List.nodup_append.1 h).2.2 name hmem name List.mem_cons_self rfl
    calc b.insertAll ((name, x) :: values)
        = (insert name x b).insertAll values := rfl
      _ = (b ++ [(name, x)]).insertAll values := by rw [insert_of_not_mem hname]
      _ = b ++ [(name, x)] ++ values := ih (hsnoc ▸ h)
      _ = b ++ (name, x) :: values := hsnoc.symm

theorem nodup_keys_ofList : ((ofList values).map Prod.fst).Nodup := nodup_keys_insertAll .nil

theorem ofList_eq_self (h : (values.map Prod.fst).Nodup) : ofList values = values :=
  insertAll_eq_append h

end

variable {R : Reader} {c : Coercion R.Value} {v w : R.Value} {m inner : Mapping R.Value}
  {b : Bindings} {pairs : List (String × Float)} {path content : String}

def HasSection (R : Reader) (v : R.Value) (inner : Mapping R.Value) : Prop :=
  ∃ m w, R.layer v = .mapping m ∧ (∀ e ∈ m.entries, e.1 = .text sectionKey) ∧
    (.text sectionKey, w) ∈ m.entries ∧ R.layer w = .mapping inner

/-- The mapping that a document has for bindings. -/
inductive ReadAs (R : Reader) : R.Value → Mapping R.Value → Prop where
  | inSection {v : R.Value} {inner : Mapping R.Value} : HasSection R v inner → ReadAs R v inner
  | flat {v : R.Value} {m : Mapping R.Value} :
      R.layer v = .mapping m → (∀ inner, ¬ HasSection R v inner) → ReadAs R v m
  | nothing {v : R.Value} : (R.layer v).truth = false → ReadAs R v .empty

def Binds (c : Coercion R.Value) (e : Scalar × R.Value) (b : String × Float) : Prop :=
  KeyFor e.1 b.1 ∧ c.number? e.2 = some b.2

/-- The value is a mapping of these bindings, with texts for keys. -/
def Lists (c : Coercion R.Value) (v : R.Value) (b : Bindings) : Prop :=
  ∃ m, R.layer v = .mapping m ∧ (∀ e ∈ m.entries, ∃ name, e.1 = .text name) ∧
    List.Forall₂ (Binds c) m.entries b

/-- The number itself stands there, under the name itself. -/
def Writes (R : Reader) (e : Scalar × R.Value) (b : String × Float) : Prop :=
  e.1 = .text b.1 ∧ R.layer e.2 = .scalar (.float b.2)

def Wraps (R : Reader) (v w : R.Value) : Prop :=
  ∃ m, R.layer v = .mapping m ∧ m.entries = [(.text sectionKey, w)]

/-! Which mapping a document has. -/

theorem sectionOf?_eq_some_iff (hv : R.layer v = .mapping m) :
    sectionOf? R m = some inner ↔ HasSection R v inner := by
  unfold sectionOf? HasSection
  constructor
  · intro h
    split at h
    · next hkeys =>
      split at h
      · next hlookup =>
        cases h
        obtain ⟨w, hw, hinner⟩ := Option.map_eq_some_iff.1 hlookup
        exact ⟨m, w, hv, by simpa using hkeys, Mapping.mem_of_lookup? hw, hinner⟩
      · cases h
    · cases h
  · rintro ⟨m', w, hv', hkeys, hw, hinner⟩
    cases hv.symm.trans hv'
    rw [if_pos (by simpa using hkeys), Mapping.lookup?_eq_some_iff.2 hw, Option.map_some, hinner]

theorem sectionOf?_empty : sectionOf? R .empty = none := rfl

theorem listOf?_of_layer (hv : R.layer v = .mapping m) :
    listOf? R v = some ((sectionOf? R m).getD m) := by
  rw [listOf?, Layer.orEmpty_eq_mapping_iff.2 (.inl hv)]

theorem listOf?_of_readAs (h : ReadAs R v m) : listOf? R v = some m := by
  cases h with
  | inSection hsection =>
    obtain ⟨outer, w, hv, -⟩ := id hsection
    rw [listOf?_of_layer hv, (sectionOf?_eq_some_iff hv).2 hsection, Option.getD_some]
  | flat hv hflat =>
    have hnone : sectionOf? R m = none := Option.eq_none_iff_forall_ne_some.2 fun inner h =>
      hflat inner ((sectionOf?_eq_some_iff hv).1 h)
    rw [listOf?_of_layer hv, hnone, Option.getD_none]
  | nothing htruth =>
    rw [listOf?, Layer.orEmpty_eq_mapping_iff.2 (.inr ⟨htruth, rfl⟩)]
    rfl

theorem readAs_of_listOf? (h : listOf? R v = some m) : ReadAs R v m := by
  unfold listOf? at h
  split at h
  · next outer houter =>
    cases h
    obtain hv | ⟨htruth, rfl⟩ := Layer.orEmpty_eq_mapping_iff.1 houter
    · cases hsection : sectionOf? R outer with
      | some inner => exact .inSection ((sectionOf?_eq_some_iff hv).1 hsection)
      | none =>
        refine .flat hv fun inner hinner => ?_
        cases hsection.symm.trans ((sectionOf?_eq_some_iff hv).2 hinner)
    · rw [sectionOf?_empty]
      exact .nothing htruth
  · cases h

theorem listOf?_eq_some_iff : listOf? R v = some m ↔ ReadAs R v m :=
  ⟨readAs_of_listOf?, listOf?_of_readAs⟩

theorem ReadAs.eq {other : Mapping R.Value} (h : ReadAs R v m) (h' : ReadAs R v other) :
    m = other :=
  Option.some.inj ((listOf?_of_readAs h).symm.trans (listOf?_of_readAs h'))

/-! Which entries are bindings. -/

theorem bindingOf?_eq_some_iff (hc : c.Lawful) {e : Scalar × R.Value} {b : String × Float} :
    bindingOf? c e = some b ↔ Binds c e b := by
  obtain ⟨name, x⟩ := b
  simp [bindingOf?, Binds, ← hc.name_iff, Option.bind_eq_some_iff]

theorem mapM_bindingOf?_eq_some_iff (hc : c.Lawful) :
    m.entries.mapM (bindingOf? c) = some pairs ↔ List.Forall₂ (Binds c) m.entries pairs := by
  simp only [mapM_eq_some_iff, bindingOf?_eq_some_iff hc]

theorem ofValue?_eq_some_iff (hc : c.Lawful) : ofValue? R c v = some b ↔
    ∃ m pairs, ReadAs R v m ∧ List.Forall₂ (Binds c) m.entries pairs ∧ b = .ofList pairs := by
  simp only [ofValue?, Option.bind_eq_bind, Option.bind_eq_some_iff, Option.pure_def,
    Option.some.injEq, listOf?_eq_some_iff, mapM_bindingOf?_eq_some_iff hc, eq_comm (a := b),
    exists_and_left]

theorem exists_ofValue?_iff (hc : c.Lawful) : (∃ b, ofValue? R c v = some b) ↔
    ∃ m, ReadAs R v m ∧
      ∀ e ∈ m.entries, (∃ name, KeyFor e.1 name) ∧ ∃ x, c.number? e.2 = some x := by
  have hbinds : ∀ e : Scalar × R.Value, (∃ b, Binds c e b) ↔
      (∃ name, KeyFor e.1 name) ∧ ∃ x, c.number? e.2 = some x := fun e => by
    simp only [Binds, Prod.exists, exists_and_left, exists_and_right]
  simp only [← hbinds, ← exists_forall₂_iff, ofValue?_eq_some_iff hc]
  constructor
  · rintro ⟨_, m, pairs, hm, hpairs, -⟩
    exact ⟨m, hm, pairs, hpairs⟩
  · rintro ⟨m, hm, pairs, hpairs⟩
    exact ⟨_, m, pairs, hm, hpairs, rfl⟩

theorem keyFor_text_iff {s name : String} : KeyFor (.text s) name ↔ s = name := by
  simp [KeyFor]

theorem names_eq_of_texts {entries : List (Scalar × R.Value)}
    (h : List.Forall₂ (Binds c) entries pairs) (htexts : ∀ e ∈ entries, ∃ name, e.1 = .text name) :
    names entries = pairs.map Prod.fst := by
  induction h with
  | nil => rfl
  | @cons e b entries pairs hb _ ih =>
    obtain ⟨⟨name, hname⟩, hrest⟩ := List.forall_mem_cons.1 htexts
    obtain ⟨key, w⟩ := e
    subst hname
    obtain rfl := keyFor_text_iff.1 hb.1
    rw [names_cons_text, List.map_cons, ih hrest]

/-- Texts for keys differ, so there the bindings are found as they are listed. -/
theorem ofList_eq_of_texts (h : List.Forall₂ (Binds c) m.entries pairs)
    (htexts : ∀ e ∈ m.entries, ∃ name, e.1 = .text name) : ofList pairs = pairs :=
  ofList_eq_self (names_eq_of_texts h htexts ▸ m.nodup_names)

theorem ofValue?_eq_some_iff_of_texts (hc : c.Lawful) (hm : ReadAs R v m)
    (htexts : ∀ e ∈ m.entries, ∃ name, e.1 = .text name) :
    ofValue? R c v = some b ↔ List.Forall₂ (Binds c) m.entries b := by
  rw [ofValue?_eq_some_iff hc]
  constructor
  · rintro ⟨other, pairs, hother, hpairs, rfl⟩
    obtain rfl := hm.eq hother
    rwa [ofList_eq_of_texts hpairs htexts]
  · intro h
    exact ⟨m, b, hm, h, (ofList_eq_of_texts h htexts).symm⟩

theorem lists_of_writes (hc : c.Lawful) (hv : R.layer v = .mapping m)
    (h : List.Forall₂ (Writes R) m.entries b) : Lists c v b := by
  refine ⟨m, hv, fun e he => ?_, h.imp fun e p hp => ?_⟩
  · obtain ⟨p, hkey, -⟩ := exists_forall₂_iff.1 ⟨b, h⟩ e he
    exact ⟨p.1, hkey⟩
  · exact ⟨.inl hp.1, hc.number_of_float _ _ hp.2⟩

theorem Lists.ofValue?_of_readAs (hc : c.Lawful) (h : Lists c v b)
    (hread : ∀ m, R.layer v = .mapping m → ReadAs R w m) : ofValue? R c w = some b := by
  obtain ⟨m, hv, htexts, hb⟩ := h
  exact (ofValue?_eq_some_iff_of_texts hc (hread m hv) htexts).2 hb

/-- No mapping is a number, so what lists bindings has no section in it. -/
theorem Lists.ofValue?_flat (hc : c.Lawful) (h : Lists c v b) : ofValue? R c v = some b := by
  refine h.ofValue?_of_readAs hc fun m hv => .flat hv ?_
  obtain ⟨_, hv', -, hb⟩ := h
  cases hv.symm.trans hv'
  rintro inner ⟨_, w, hv', -, hw, hinner⟩
  cases hv.symm.trans hv'
  obtain ⟨b, -, hnumber⟩ := exists_forall₂_iff.1 ⟨_, hb⟩ _ hw
  cases hnumber.symm.trans (hc.number_of_mapping w inner hinner)

theorem Lists.ofValue?_section (hc : c.Lawful) (hw : Wraps R v w) (h : Lists c w b) :
    ofValue? R c v = some b := by
  obtain ⟨outer, hv, hentries⟩ := hw
  exact h.ofValue?_of_readAs hc fun m hm =>
    .inSection ⟨outer, w, hv, by simp [hentries], by simp [hentries], hm⟩

theorem ofValue?_mixed (hc : c.Lawful) (hv : R.layer v = .mapping m)
    (hw : (.text sectionKey, w) ∈ m.entries) (hinner : R.layer w = .mapping inner)
    {e : Scalar × R.Value} (he : e ∈ m.entries) (hkey : e.1 ≠ .text sectionKey) :
    ofValue? R c v = none := by
  have hread : ReadAs R v m := by
    refine .flat hv ?_
    rintro _ ⟨_, _, hv', hkeys, -⟩
    cases hv.symm.trans hv'
    exact hkey (hkeys e he)
  -- Read as it stands, the mapping has the section among its values.
  refine Option.eq_none_iff_forall_ne_some.2 fun b hb => ?_
  obtain ⟨other, hother, hall⟩ := (exists_ofValue?_iff hc).1 ⟨b, hb⟩
  obtain rfl := hread.eq hother
  obtain ⟨-, x, hx⟩ := hall _ hw
  cases hx.symm.trans (hc.number_of_mapping w inner hinner)

theorem nodup_keys_of_ofDocument (h : ofDocument R c path content = .ok b) :
    (b.map Prod.fst).Nodup := by
  unfold ofDocument at h
  split at h
  · split at h
    · next hvalues =>
      cases h
      obtain ⟨m, -, h⟩ := Option.bind_eq_some_iff.1 hvalues
      obtain ⟨pairs, -, h⟩ := Option.bind_eq_some_iff.1 h
      cases h
      exact nodup_keys_ofList
    · cases h
  · cases h
  · cases h

theorem ofDocument_eq_ok_iff (h : R.load content = .ok v) :
    ofDocument R c path content = .ok b ↔ ofValue? R c v = some b := by
  simp only [ofDocument, h]
  cases ofValue? R c v <;> simp

theorem ofDocument_eq_error_iff (h : R.load content = .ok v) {f : Failure BindingsFault} :
    ofDocument R c path content = .error f ↔
      (∀ b, ofDocument R c path content ≠ .ok b) ∧ f = .fault (.badValues path) := by
  simp only [ofDocument, h]
  cases ofValue? R c v <;> simp [eq_comm]

/-- Any bindings are found again in a document that lists them (one with the numbers in it does),
and in one that has such a list in a section, also if there are none or if one of them is to the
name of the section. Of any document it is settled whether it is read as a section, as bindings or
as nothing, and it gives the bindings there exactly if every key is a text or the bytes of one and
every value is taken for a number; otherwise it is at fault, and so it is with a section beside
other keys. -/
theorem bindings_of_either_layout {R : Reader} {c : Coercion R.Value} (hc : c.Lawful)
    (path content : String) :
    (R.load content = .error .malformed →
      ofDocument R c path content = .error (.fault (.badDocument path))) ∧
    ∀ v, R.load content = .ok v →
      (∀ m b, R.layer v = .mapping m → List.Forall₂ (Writes R) m.entries b → Lists c v b) ∧
      (∀ b, Lists c v b → ofDocument R c path content = .ok b) ∧
      (∀ w b, Wraps R v w → Lists c w b → ofDocument R c path content = .ok b) ∧
      (∀ m other, ReadAs R v m → ReadAs R v other → m = other) ∧
      ((∃ b, ofDocument R c path content = .ok b) ↔ ∃ m, ReadAs R v m ∧
        ∀ e ∈ m.entries, (∃ name, KeyFor e.1 name) ∧ ∃ x, c.number? e.2 = some x) ∧
      (∀ b, ofDocument R c path content = .ok b ↔ ∃ m pairs, ReadAs R v m ∧
        List.Forall₂ (Binds c) m.entries pairs ∧ b = .ofList pairs) ∧
      (∀ m b, ReadAs R v m → (∀ e ∈ m.entries, ∃ name, e.1 = .text name) →
        (ofDocument R c path content = .ok b ↔ List.Forall₂ (Binds c) m.entries b)) ∧
      (∀ f, ofDocument R c path content = .error f ↔
        (∀ b, ofDocument R c path content ≠ .ok b) ∧ f = .fault (.badValues path)) ∧
      ∀ m w inner, R.layer v = .mapping m → (.text sectionKey, w) ∈ m.entries →
        R.layer w = .mapping inner → (∃ e ∈ m.entries, e.1 ≠ .text sectionKey) →
          ofDocument R c path content = .error (.fault (.badValues path)) := by
  refine ⟨fun h => by rw [ofDocument, h], fun v h => ?_⟩
  have hfails : ∀ f, ofDocument R c path content = .error f ↔
      (∀ b, ofDocument R c path content ≠ .ok b) ∧ f = .fault (.badValues path) :=
    fun f => ofDocument_eq_error_iff h
  simp only [ofDocument_eq_ok_iff h]
  refine ⟨fun m b => lists_of_writes hc, fun b hb => hb.ofValue?_flat hc,
    fun w b hw hb => hb.ofValue?_section hc hw, fun m other => ReadAs.eq, exists_ofValue?_iff hc,
    fun b => ofValue?_eq_some_iff hc, fun m b => ofValue?_eq_some_iff_of_texts hc, hfails, ?_⟩
  rintro m w inner hv hw hinner ⟨e, he, hkey⟩
  have hnone := ofValue?_mixed hc hv hw hinner he hkey
  refine (hfails _).2 ⟨fun b hb => ?_, rfl⟩
  cases hnone.symm.trans ((ofDocument_eq_ok_iff h).1 hb)

set_option maxRecDepth 8000 in
/-- An unknown with the name of the section is bound in either layout; a section beside other keys
is none. -/
theorem bindings_to_the_section_key :
    let flat : Plain.Tree := .mapping [(.text sectionKey, .scalar (.int 3))]
    Plain.coercion.Lawful ∧
      Plain.reader.load "variables: 3\n" = .ok flat ∧
      ofDocument Plain.reader Plain.coercion "f.yaml" "variables: 3\n" = .ok [(sectionKey, 3)] ∧
      Plain.reader.load "variables:\n  variables: 3\n" = .ok (.mapping [(.text sectionKey, flat)]) ∧
      ofDocument Plain.reader Plain.coercion "f.yaml" "variables:\n  variables: 3\n" =
        .ok [(sectionKey, 3)] ∧
      Plain.reader.load "variables:\n  x: 1\ny: 2\n" =
        .ok (.mapping [(.text sectionKey, .mapping [(.text "x", .scalar (.int 1))]),
          (.text "y", .scalar (.int 2))]) ∧
      ofDocument Plain.reader Plain.coercion "f.yaml" "variables:\n  x: 1\ny: 2\n" =
        .error (.fault (.badValues "f.yaml")) := by
  intro flat
  have hload : Plain.reader.load "variables: 3\n" = .ok flat := by
    change Plain.load _ = _
    cbv
  have hloadSection : Plain.reader.load "variables:\n  variables: 3\n" =
      .ok (.mapping [(.text sectionKey, flat)]) := by
    change Plain.load _ = _
    cbv
  have hloadMixed : Plain.reader.load "variables:\n  x: 1\ny: 2\n" =
      .ok (.mapping [(.text sectionKey, .mapping [(.text "x", .scalar (.int 1))]),
        (.text "y", .scalar (.int 2))]) := by
    change Plain.load _ = _
    cbv
  have hthree : Plain.numberOf? (.scalar (.int 3)) = some 3 := by decide +kernel
  have hlists : Lists (R := Plain.reader) Plain.coercion flat [(sectionKey, 3)] :=
    ⟨Plain.mappingOf [(.text sectionKey, .scalar (.int 3))], rfl,
      List.forall_mem_singleton.2 ⟨_, rfl⟩, .cons ⟨.inl rfl, hthree⟩ .nil⟩
  have hwraps : Wraps Plain.reader (.mapping [(.text sectionKey, flat)]) flat := ⟨_, rfl, rfl⟩
  have hlaws := Plain.coercion_lawful
  obtain ⟨-, hflat, -⟩ := (bindings_of_either_layout hlaws "f.yaml" _).2 _ hload
  obtain ⟨-, -, hsection, -⟩ := (bindings_of_either_layout hlaws "f.yaml" _).2 _ hloadSection
  obtain ⟨-, -, -, -, -, -, -, -, hmixed⟩ :=
    (bindings_of_either_layout hlaws "f.yaml" _).2 _ hloadMixed
  refine ⟨hlaws, hload, hflat _ hlists, hloadSection, hsection _ _ hwraps hlists, hloadMixed, ?_⟩
  exact hmixed _ _ _ rfl List.mem_cons_self rfl
    ⟨_, List.mem_cons_of_mem _ List.mem_cons_self, by decide⟩

set_option maxRecDepth 8000 in
/-- It need not be a text: the key here is the one byte that spells `x`. -/
theorem bindings_under_bytes :
    ofDocument Plain.reader Plain.coercion "f.yaml" "!!binary eA==: 3\n" = .ok [("x", 3)] ∧
    ¬ ∀ (R : Reader) (c : Coercion R.Value), c.Lawful →
      ∀ path content v m, R.load content = .ok v → ReadAs R v m →
        ((∃ b, ofDocument R c path content = .ok b) ↔
          ∀ e ∈ m.entries, (∃ name, e.1 = .text name) ∧ ∃ x, c.number? e.2 = some x) := by
  let bytes : Scalar := .bytes [120]
  have hload : Plain.reader.load "!!binary eA==: 3\n" =
      .ok (.mapping [(bytes, .scalar (.int 3))]) := by
    change Plain.load _ = _
    cbv
  have hvalues : ofDocument Plain.reader Plain.coercion "f.yaml" "!!binary eA==: 3\n" =
      .ok [("x", 3)] := by
    rw [ofDocument, hload]
    rfl
  have hread : ReadAs Plain.reader (.mapping [(bytes, .scalar (.int 3))])
      (Plain.mappingOf [(bytes, .scalar (.int 3))]) := readAs_of_listOf? rfl
  refine ⟨hvalues, fun h => ?_⟩
  have hall := (h Plain.reader Plain.coercion Plain.coercion_lawful _ _ _ _ hload hread).1
    ⟨_, hvalues⟩
  obtain ⟨⟨_, hkey⟩, -⟩ := hall _ List.mem_cons_self
  cases hkey

end Bindings
end Reckon
