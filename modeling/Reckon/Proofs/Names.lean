import Reckon.Proofs.Letters
import Reckon.Proofs.Pieces

/-! What names are made of. A name goes on as long as letters come, but numbers that are no digits,
such as superscripts and fractions, are taken for letters: they end up in names instead of being
refused. -/
namespace Reckon
open Text

def Allowed (letter : Char → Bool) (c : Char) : Prop :=
  isBlank c = true ∨ isDigit c = true ∨ c = '.' ∨ c ∈ symbols ∨ letter c = true

instance (letter : Char → Bool) (c : Char) : Decidable (Allowed letter c) :=
  inferInstanceAs (Decidable (_ ∨ _ ∨ _ ∨ _ ∨ _))

structure WholeName (letter : Char → Bool) (before run after : List Char) : Prop where
  ne_nil : run ≠ []
  letters : ∀ c ∈ run, letter c = true
  begins : ∀ c ∈ before.getLast?, letter c = false
  ends : ∀ c ∈ after.head?, letter c = false

/-- Only these letters make names in the text, and what is neither a letter nor read otherwise is
refused. -/
structure NamesOf (letter : Char → Bool) (source : String) : Prop where
  allowed : ∀ ls, tokenize source = .ok ls → ∀ c ∈ source.toList, Allowed letter c
  whole : ∀ ls, tokenize source = .ok ls → ∀ l ∈ ls, ∀ name, l.token = .atom (.unknown name) →
    ∃ before after, source.toList = before ++ (name.toList ++ after) ∧
      before.length = l.position ∧ WholeName letter before name.toList after
  refused : ∀ c ∈ source.toList, ¬ Allowed letter c →
    ∃ f, tokenize source = .error f ∧ f.kind = .unexpectedToken

def isLetterOrNumber (c : Char) : Bool := isLetter c || isNumber c

theorem isLetterOrNumber_eq : isLetterOrNumber = isNameChar := by
  funext c
  rw [Bool.eq_iff_iff, isLetterOrNumber, Bool.or_eq_true, isNameChar_iff]

/-! Names are whole: what stands in front of one is no part of a name. -/

section
variable {cs : List Char} {first : Nat} {p q : Piece} {ps : List Piece}

theorem Segmentation.stop_le_of_start_lt (h : Segmentation cs first ps) (hp : p ∈ ps) (hq : q ∈ ps)
    (hlt : q.start < p.start) : q.stop ≤ p.start := by
  obtain ⟨front, back, rfl⟩ := List.append_of_mem hp
  obtain ⟨-, hback, hfront⟩ := List.pairwise_append.1 h.inOrder
  rw [List.mem_append, List.mem_cons] at hq
  obtain hq | rfl | hq := hq
  · exact hfront q hq p List.mem_cons_self
  · omega
  · have hstop := (List.pairwise_cons.1 hback).1 q hq
    have := (h.liesIn p hp).start_lt_stop
    omega

theorem Spells.growsBy_eq {run : List Char} {t : Token} {c : Char} (h : Spells run t)
    (hc : c ∈ run) (hname : isNameChar c = true) : t.growsBy = isNameChar := by
  cases h with
  | numeral hrun _ =>
    have hnum := hrun.goesOn c hc
    cases hnum.symm.trans (isNumeralChar_eq_false_of_isNameChar hname)
  | function f => rfl
  | unknown _ _ _ => rfl
  | symbol ht =>
    rw [List.mem_singleton.1 hc] at hname
    cases hname.symm.trans (not_grows_of_mem_symbols (mem_symbols_iff.2 ⟨_, ht⟩)).2

theorem Segmentation.not_isNameChar_before (h : Segmentation cs 0 ps) (hp : p ∈ ps)
    (hrun : ∀ c ∈ p.run, isNameChar c = true) :
    ∀ c ∈ (cs.take p.start).getLast?, isNameChar c = false := by
  intro c hc
  have hlies := h.liesIn p hp
  rw [List.getLast?_take, Option.mem_def] at hc
  split at hc
  · cases hc
  next hstart =>
  have hstop := hlies.stop_le
  have hlt := hlies.start_lt_stop
  rw [List.getElem?_eq_getElem (by omega), Option.some_or] at hc
  have hat : cs[p.start - 1]? = some c := by rwa [List.getElem?_eq_getElem (by omega)]
  refine Bool.eq_false_iff.2 fun hname => ?_
  have hblank := isBlank_eq_false (.inr (.inl hname))
  obtain ⟨q, hq, hfrom, hto⟩ := (h.covers _ c (Nat.zero_le _) hat).1 hblank
  have hmeet : q.stop = p.start := by
    have := h.stop_le_of_start_lt hp hq (by omega)
    omega
  -- The piece in front would have gone on into this one.
  have hends := (h.liesIn q hq).ends
  have hmem := (h.liesIn q hq).mem_run hfrom hto hat
  obtain ⟨d, run, hd⟩ := List.exists_cons_of_ne_nil hlies.spelled.ne_nil
  rw [Token.EndsBefore, (h.liesIn q hq).spelled.growsBy_eq hmem hname, hmeet, hlies.drop_start,
    hd] at hends
  cases (hends d rfl).symm.trans (hrun d (by simp [hd]))

theorem Segmentation.wholeName (h : Segmentation cs 0 ps) (hp : p ∈ ps) {name : String}
    (ht : p.token = .atom (.unknown name)) : p.run = name.toList ∧
      WholeName isNameChar (cs.take p.start) p.run (cs.drop p.stop) := by
  have hlies := h.liesIn p hp
  have hspelled := hlies.spelled
  have hends := hlies.ends
  rw [ht] at hspelled hends
  generalize hrun : p.run = run at hspelled
  cases hspelled with
  | unknown hne hchars hfree =>
    subst hrun
    exact ⟨by rw [String.toList_ofList], hne, hchars, h.not_isNameChar_before hp hchars, hends⟩
  | symbol hsymbol =>
    unfold Token.ofSymbol? at hsymbol
    split at hsymbol <;> cases hsymbol

end

/-! What is refused. -/

theorem Cursor.kind_of_scan {k : Cursor} {f : Fault} (h : k.scan.2 = some f) :
    f.kind = .unexpectedToken := by
  induction k using Cursor.scan.induct with
  | case1 k l k' hnext _ ls fault hscan ih =>
    rw [scan_of_token hnext] at h
    exact ih h
  | case2 k k' hnext =>
    rw [scan_of_end hnext] at h
    cases h
  | case3 k e k' hnext =>
    rw [scan_of_fault hnext] at h
    cases h
    exact kind_of_next_fault hnext

section
variable {source : String}

theorem kind_of_tokenize {f : Fault} (h : tokenize source = .error f) :
    f.kind = .unexpectedToken := by
  unfold tokenize at h
  split at h
  · cases h
  · next hscan =>
    cases h
    exact Cursor.kind_of_scan (congrArg Prod.snd hscan)

theorem allowed_of_tokenize {ls : List Lexeme} (h : tokenize source = .ok ls) :
    ∀ c ∈ source.toList, Allowed isNameChar c := by
  intro c hc
  have hlegible : Legible source.toList :=
    legible_iff_segmented.2 ⟨_, segmented_iff_tokenize.2 ⟨ls, h, rfl⟩⟩
  obtain ⟨before, after, hat⟩ := List.append_of_mem hc
  obtain (hblank | hdigit | hname | hsymbol) | ⟨hpoint, -⟩ := hlegible.known before c after hat
  · exact .inl hblank
  · exact .inr (.inl hdigit)
  · exact .inr (.inr (.inr (.inr hname)))
  · exact .inr (.inr (.inr (.inl hsymbol)))
  · exact .inr (.inr (.inl hpoint))

theorem not_allowed_of_isNumber {c : Char} (h : isNumber c = true) : ¬ Allowed isLetter c := by
  have hname := isNameChar_iff.2 (.inr h)
  rintro (hblank | hdigit | rfl | hsymbol | hletter)
  · cases hname.symm.trans (isNameChar_eq_false_of_isBlank hblank)
  · cases hdigit.symm.trans (isDigit_eq_false_of_isNumber h)
  · exact absurd h (by decide)
  · cases hname.symm.trans (not_grows_of_mem_symbols hsymbol).2
  · cases h.symm.trans (isNumber_eq_false_of_isLetter hletter)

theorem refused_of_allowed {letter : Char → Bool}
    (h : ∀ ls, tokenize source = .ok ls → ∀ c ∈ source.toList, Allowed letter c) :
    ∀ c ∈ source.toList, ¬ Allowed letter c →
      ∃ f, tokenize source = .error f ∧ f.kind = .unexpectedToken := by
  intro c hc hnot
  cases htokens : tokenize source with
  | ok ls => cases hnot (h ls htokens c hc)
  | error f => exact ⟨f, rfl, kind_of_tokenize htokens⟩

theorem namesOf_isNameChar (source : String) : NamesOf isNameChar source := by
  have hallowed := fun ls => @allowed_of_tokenize source ls
  refine ⟨hallowed, fun ls hls l hl name hname => ?_, refused_of_allowed hallowed⟩
  obtain ⟨ps, hps, rfl⟩ := Cursor.scan_inside_iff.1 (tokenize_eq_ok_iff.1 hls)
  obtain ⟨p, hp, rfl⟩ := List.mem_map.1 hl
  have hlies := hps.liesIn p hp
  obtain ⟨hrun, hwhole⟩ := hps.wholeName hp hname
  rw [← hrun]
  refine ⟨_, _, ?_, ?_, hwhole⟩
  · rw [← hlies.drop_start, List.take_append_drop]
  · have := hlies.start_lt_stop
    have := hlies.stop_le
    rw [List.length_take]
    exact Nat.min_eq_left (by omega)

theorem WholeName.ofLetters {before run after : List Char}
    (h : WholeName isNameChar before run after)
    (hnone : ∀ c ∈ run, isNumber c = false) : WholeName isLetter before run after := by
  have hparts : ∀ c, isNameChar c = false → isLetter c = false := fun c hc =>
    Bool.eq_false_iff.2 fun hletter => Bool.eq_false_iff.1 hc (isNameChar_iff.2 (.inl hletter))
  refine ⟨h.ne_nil, fun c hc => ?_, fun c hc => hparts c (h.begins c hc),
    fun c hc => hparts c (h.ends c hc)⟩
  obtain hletter | hnumber := isNameChar_iff.1 (h.letters c hc)
  · exact hletter
  · cases hnumber.symm.trans (hnone c hc)

theorem namesOf_isLetter_iff : NamesOf isLetter source ↔
    ∀ ls, tokenize source = .ok ls → ∀ c ∈ source.toList, isNumber c = false := by
  constructor
  · intro h ls hls c hc
    exact Bool.eq_false_iff.2 fun hnumber => not_allowed_of_isNumber hnumber (h.allowed ls hls c hc)
  · intro hnone
    have hnames := namesOf_isNameChar source
    have hallowed : ∀ ls, tokenize source = .ok ls → ∀ c ∈ source.toList, Allowed isLetter c := by
      intro ls hls c hc
      obtain hblank | hdigit | hpoint | hsymbol | hname := hnames.allowed ls hls c hc
      · exact .inl hblank
      · exact .inr (.inl hdigit)
      · exact .inr (.inr (.inl hpoint))
      · exact .inr (.inr (.inr (.inl hsymbol)))
      · obtain hletter | hnumber := isNameChar_iff.1 hname
        · exact .inr (.inr (.inr (.inr hletter)))
        · cases hnumber.symm.trans (hnone ls hls c hc)
    refine ⟨hallowed, fun ls hls l hl name hname => ?_, refused_of_allowed hallowed⟩
    obtain ⟨before, after, htext, hposition, hwhole⟩ := hnames.whole ls hls l hl name hname
    refine ⟨before, after, htext, hposition, hwhole.ofLetters fun c hc => hnone ls hls c ?_⟩
    rw [htext]
    exact List.mem_append_right _ (List.mem_append_left _ hc)

theorem tokenize_of_nameChars (hne : source ≠ "") (h : ∀ c ∈ source.toList, isNameChar c = true) :
    tokenize source = .ok [⟨.atom (.ofName source), 0⟩] := by
  have hhead := head_of_nameChars (mt String.toList_eq_nil_iff.1 hne) h
  rw [String.ofList_toList] at hhead
  have hnext : (Cursor.start source).next =
      (.ok (some ⟨.atom (.ofName source), 0⟩), ⟨[], source.toList.length⟩) := by
    refine Cursor.next_eq_token_iff.2 ⟨[], source.toList, by simp, by simp, hhead, ?_, rfl, ?_⟩
    · simp [Token.EndsBefore]
    · simp
  have hend : (Cursor.mk [] source.toList.length).scan = ([], none) :=
    Cursor.scan_of_end (Cursor.next_of_blanks (by simp))
  rw [tokenize, Cursor.scan_of_token hnext, hend]

end

/-- Names are whole runs of letters and of numbers that are no digits, and all that is neither of
these nor a blank, a digit, a point or a symbol is refused. Letters alone make names exactly if the
text is not tokenized or has no such number in it; where it has one, the number is in a name. -/
theorem names_of_letters_and_numbers (source : String) :
    NamesOf isLetterOrNumber source ∧
    (NamesOf isLetter source ↔
      ∀ ls, tokenize source = .ok ls → ∀ c ∈ source.toList, isNumber c = false) ∧
    (source ≠ "" → (∀ c ∈ source.toList, isLetterOrNumber c = true) →
      tokenize source = .ok [⟨.atom (.ofName source), 0⟩]) := by
  rw [isLetterOrNumber_eq]
  exact ⟨namesOf_isNameChar source, namesOf_isLetter_iff, tokenize_of_nameChars⟩

/-- A fraction sign goes on with a name, so it is another name; a character that no name has in it
is refused. -/
theorem names_with_fraction_sign :
    tokenize "a½" = .ok [⟨.atom (.unknown "a½"), 0⟩] ∧ ¬ NamesOf isLetter "a½" ∧
      NamesOf isLetter "a_b" ∧ ∃ f, tokenize "a_b" = .error f ∧ f.kind = .unexpectedToken := by
  obtain ⟨-, hletters, hname⟩ := names_of_letters_and_numbers "a½"
  obtain ⟨hnames, hletters', -⟩ := names_of_letters_and_numbers "a_b"
  have hok : tokenize "a½" = .ok [⟨.atom (.unknown "a½"), 0⟩] :=
    hname (by decide) (List.all_eq_true.1 (by decide))
  have hrefused := hnames.refused '_' (by decide) (by decide)
  refine ⟨hok, fun h => ?_, hletters'.2 fun ls hls => ?_, hrefused⟩
  · exact absurd (hletters.1 h _ hok '½' (by decide)) (by decide)
  · obtain ⟨f, hf, -⟩ := hrefused
    cases hf.symm.trans hls

/-- A name with a superscript in it: it is one name, not a name and a character that is refused. -/
theorem superscript_in_name :
    tokenize "x²" = .ok [⟨.atom (.unknown "x²"), 0⟩] ∧ '²' ∈ "x²".toList ∧
      ¬ Allowed isLetter '²' ∧ ¬ ∀ source, NamesOf isLetter source := by
  have hok : tokenize "x²" = .ok [⟨.atom (.unknown "x²"), 0⟩] :=
    tokenize_of_nameChars (by decide) (List.all_eq_true.1 (by decide))
  have hmem : '²' ∈ "x²".toList := by decide
  have hnot : ¬ Allowed isLetter '²' := not_allowed_of_isNumber (by decide)
  exact ⟨hok, hmem, hnot, fun h => hnot ((h "x²").allowed _ hok _ hmem)⟩

end Reckon
