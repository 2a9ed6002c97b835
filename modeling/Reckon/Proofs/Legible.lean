import Reckon.Proofs.Segments

/-! Which texts fall into tokens. Names and symbols are never in each other's way, so there are two
things to go wrong: a character that no token can begin with, such as a point outside of a numeral,
and a numeral with more than one point. -/
namespace Reckon
open Text Numeral

structure NumeralRun (run : List Char) : Prop where
  begins : ∃ c ∈ run.head?, isDigit c = true
  goesOn : ∀ c ∈ run, isNumeralChar c = true

/-- With this in front of it and behind it, the run is not part of a longer one. -/
structure WholeRun (before run after : List Char) : Prop where
  isRun : NumeralRun run
  whole : ∀ left right, left <:+ before → right <+: after →
    NumeralRun (left ++ (run ++ right)) → left = [] ∧ right = []

def symbols : List Char := ['+', '-', '*', '/', '^', '(', ')', '[', ']']

def Ordinary (c : Char) : Prop :=
  isBlank c = true ∨ isDigit c = true ∨ isNameChar c = true ∨ c ∈ symbols

structure Legible (cs : List Char) : Prop where
  known : ∀ before c after, cs = before ++ c :: after → Ordinary c ∨
    c = '.' ∧ ∃ front left right back, before = front ++ left ∧ after = right ++ back ∧
      WholeRun front (left ++ '.' :: right) back
  onePoint : ∀ before run after, cs = before ++ (run ++ after) → WholeRun before run after →
    run.count '.' ≤ 1

/-! Runs of digits and points, and what they are part of. -/

theorem isNumeralChar_of_isDigit {c : Char} (h : isDigit c = true) : isNumeralChar c = true := by
  rw [isNumeralChar, h, Bool.true_or]

theorem mem_symbols_iff {c : Char} : c ∈ symbols ↔ ∃ t, Token.ofSymbol? c = some t := by
  constructor
  · intro h
    simp only [symbols, List.mem_cons, List.not_mem_nil, or_false] at h
    rcases h with rfl | rfl | rfl | rfl | rfl | rfl | rfl | rfl | rfl <;> exact ⟨_, rfl⟩
  · rintro ⟨t, ht⟩
    unfold Token.ofSymbol? at ht
    split at ht <;> first | cases ht; done | decide

theorem isNumeralChar_eq_false_iff {c : Char} :
    isNumeralChar c = false ↔ isDigit c = false ∧ c ≠ '.' := by
  rw [isNumeralChar, Bool.or_eq_false_iff, beq_eq_false_iff_ne]

theorem isNumeralChar_eq_false_of_isNameChar {c : Char} (h : isNameChar c = true) :
    isNumeralChar c = false := by
  refine isNumeralChar_eq_false_iff.2 ⟨isDigit_eq_false_of_isNameChar h, ?_⟩
  rintro rfl
  exact absurd h (by decide)

theorem isNumeralChar_eq_false_of_isBlank {c : Char} (h : isBlank c = true) :
    isNumeralChar c = false := by
  refine isNumeralChar_eq_false_iff.2 ⟨isDigit_eq_false_of_isBlank h, ?_⟩
  rintro rfl
  exact absurd h (by decide)

theorem isBlank_eq_false {c : Char}
    (h : isNumeralChar c = true ∨ isNameChar c = true ∨ c ∈ symbols) : isBlank c = false := by
  refine Bool.eq_false_iff.2 fun hblank => ?_
  obtain hnum | hname | hsymbol := h
  · cases hnum.symm.trans (isNumeralChar_eq_false_of_isBlank hblank)
  · cases hname.symm.trans (isNameChar_eq_false_of_isBlank hblank)
  · obtain ⟨t, ht⟩ := mem_symbols_iff.1 hsymbol
    cases ht.symm.trans (ofSymbol?_eq_none_of_isBlank hblank)

theorem not_grows_of_mem_symbols {c : Char} (h : c ∈ symbols) :
    isNumeralChar c = false ∧ isNameChar c = false := by
  have hall : symbols.all (fun d => !isNumeralChar d && !isNameChar d) = true := by decide +kernel
  simpa using List.all_eq_true.1 hall c h

section
variable {run before after : List Char}

theorem NumeralRun.of_cons {c : Char} {cs : List Char} (hc : isDigit c = true)
    (hcs : ∀ d ∈ cs, isNumeralChar d = true) : NumeralRun (c :: cs) :=
  ⟨⟨c, rfl, hc⟩, List.forall_mem_cons.2 ⟨isNumeralChar_of_isDigit hc, hcs⟩⟩

theorem NumeralRun.exists_cons (h : NumeralRun run) :
    ∃ c cs, run = c :: cs ∧ isDigit c = true ∧ ∀ d ∈ cs, isNumeralChar d = true := by
  obtain ⟨⟨c, hhead, hc⟩, hall⟩ := h
  obtain ⟨cs, rfl⟩ := List.head?_eq_some_iff.1 hhead
  exact ⟨c, cs, rfl, hc, fun d hd => hall d (List.mem_cons_of_mem c hd)⟩

theorem NumeralRun.readRun?_eq_none_iff (h : NumeralRun run) :
    readRun? run = none ↔ 2 ≤ run.count '.' := by
  obtain ⟨c, cs, rfl, hc, hcs⟩ := h.exists_cons
  exact Reckon.readRun?_eq_none_iff hc hcs

theorem NumeralRun.whole (h : NumeralRun run)
    (hbefore : ∀ c ∈ before.getLast?, isNumeralChar c = false)
    (hafter : ∀ c ∈ after.head?, isNumeralChar c = false) : WholeRun before run after := by
  refine ⟨h, fun left right hleft hright hlonger => ⟨?_, ?_⟩⟩
  · refine List.eq_nil_iff_forall_not_mem.2 fun c hc => ?_
    obtain ⟨front, rfl⟩ := hleft
    have hne : left ≠ [] := List.ne_nil_of_mem hc
    have hlast := hbefore (left.getLast hne) (by simp [List.getLast?_eq_some_getLast hne])
    have hnum := hlonger.goesOn (left.getLast hne)
      (List.mem_append_left _ (List.getLast_mem hne))
    cases hlast.symm.trans hnum
  · cases right with
    | nil => rfl
    | cons c right =>
      obtain ⟨back, rfl⟩ := hright
      have hnum := hlonger.goesOn c (by simp)
      cases (hafter c rfl).symm.trans hnum

theorem WholeRun.parts_after (h : WholeRun before run after) :
    ∀ c ∈ after.head?, isNumeralChar c = false := by
  intro c hc
  refine Bool.eq_false_iff.2 fun hnum => ?_
  obtain ⟨back, rfl⟩ := List.head?_eq_some_iff.1 hc
  obtain ⟨d, cs, rfl, hd, hcs⟩ := h.isRun.exists_cons
  have hlonger : NumeralRun ([] ++ (d :: cs ++ [c])) :=
    .of_cons hd (List.forall_mem_append.2 ⟨hcs, List.forall_mem_singleton.2 hnum⟩)
  cases (h.whole [] [c] List.nil_suffix ⟨back, rfl⟩ hlonger).2

theorem WholeRun.of_append {front : List Char} (h : WholeRun (front ++ before) run after) :
    WholeRun before run after :=
  ⟨h.isRun, fun left right hleft => h.whole left right (hleft.trans (List.suffix_append _ _))⟩

end

theorem NumeralRun.exists_whole {run : List Char} (h : NumeralRun run)
    (before after : List Char) :
    ∃ front left right back, before = front ++ left ∧ after = right ++ back ∧
      WholeRun front (left ++ (run ++ right)) back := by
  induction hn : before.length + after.length using Nat.strong_induction_on
    generalizing run before after with
  | h n ih =>
    by_cases hwhole : WholeRun before run after
    · exact ⟨before, [], [], after, by simp, rfl, by simpa using hwhole⟩
    · have hlonger : ∃ left right, left <:+ before ∧ right <+: after ∧
          NumeralRun (left ++ (run ++ right)) ∧ ¬ (left = [] ∧ right = []) := by
        by_contra hnone
        refine hwhole ⟨h, fun left right hleft hright hlonger => ?_⟩
        by_contra hne
        exact hnone ⟨left, right, hleft, hright, hlonger, hne⟩
      obtain ⟨left, right, ⟨before, rfl⟩, ⟨after, rfl⟩, hlonger, hne⟩ := hlonger
      have hpos : left.length + right.length ≠ 0 := by
        intro hzero
        obtain ⟨hleft, hright⟩ := Nat.add_eq_zero_iff.1 hzero
        exact hne ⟨List.length_eq_zero_iff.1 hleft, List.length_eq_zero_iff.1 hright⟩
      rw [List.length_append, List.length_append] at hn
      obtain ⟨front, left', right', back, rfl, rfl, hrun⟩ :=
        ih _ (by omega) hlonger before after rfl
      refine ⟨front, left' ++ left, right ++ right', back, by simp, by simp, ?_⟩
      simpa using hrun

/-! Texts that fall into tokens are legible. -/

theorem append_eq_append_cons_iff {us vs before after : List Char} {c : Char} :
    us ++ vs = before ++ c :: after ↔
      (∃ mid, us = before ++ c :: mid ∧ after = mid ++ vs) ∨
        ∃ mid, before = us ++ mid ∧ vs = mid ++ c :: after := by
  constructor
  · intro h
    obtain ⟨mid, rfl, rfl⟩ | ⟨mid, rfl, hvs⟩ := List.append_eq_append_iff.1 h
    · exact .inr ⟨mid, rfl, rfl⟩
    · cases mid with
      | nil => exact .inr ⟨[], by simp, by simpa using hvs.symm⟩
      | cons d mid =>
        obtain ⟨rfl, rfl⟩ := List.cons.inj hvs
        exact .inl ⟨mid, rfl, rfl⟩
  · rintro (⟨mid, rfl, rfl⟩ | ⟨mid, rfl, rfl⟩)
    · simp
    · simp

/-- Digits and points are in no other tokens than numerals. -/
theorem numeralRun_of_mem {cs run rest : List Char} {t : Token} {d : Char}
    (h : head cs = .token t run rest) (hd : d ∈ run) (hnum : isNumeralChar d = true) :
    NumeralRun run ∧ ∃ x, t = .atom (.number x) ∧ readRun? run = some x := by
  cases head_eq_iff.1 h with
  | @numeral c cs x hc hx => exact ⟨.of_cons hc fun _ => List.mem_takeWhile_imp, x, rfl, hx⟩
  | @name c cs hc =>
    have hname : isNameChar d = true := by
      obtain rfl | hd := List.mem_cons.1 hd
      · exact hc
      · exact List.mem_takeWhile_imp hd
    cases hnum.symm.trans (isNumeralChar_eq_false_of_isNameChar hname)
  | symbol _ _ ht =>
    rw [List.mem_singleton.1 hd] at hnum
    cases hnum.symm.trans (not_grows_of_mem_symbols (mem_symbols_iff.2 ⟨_, ht⟩)).1

theorem mem_run_of_head {cs run rest : List Char} {t : Token} {d : Char}
    (h : head cs = .token t run rest) (hd : d ∈ run) :
    isNumeralChar d = true ∨ isNameChar d = true ∨ d ∈ symbols := by
  cases head_eq_iff.1 h with
  | @numeral c cs x hc hx =>
    obtain ⟨hrun, -⟩ := numeralRun_of_mem h List.mem_cons_self (isNumeralChar_of_isDigit hc)
    exact .inl (hrun.goesOn d hd)
  | @name c cs hc =>
    refine .inr (.inl ?_)
    obtain rfl | hd := List.mem_cons.1 hd
    · exact hc
    · exact List.mem_takeWhile_imp hd
  | symbol _ _ ht =>
    rw [List.mem_singleton.1 hd]
    exact .inr (.inr (mem_symbols_iff.2 ⟨_, ht⟩))

theorem takeWhile_append_of_stop {p : Char → Bool} {cs us : List Char}
    (hcs : ∀ c ∈ cs, p c = true) (hus : ∀ c ∈ us.head?, p c = false) :
    (cs ++ us).takeWhile p = cs := by
  rw [(span_append_of_stop us (.inr hus)).1, List.takeWhile_eq_self_iff.2 hcs]

/-- A whole run that begins in a token is all of it: it would go on to what is in front of it there,
and both go on to the same end. -/
theorem WholeRun.read_of_token {front mid run after cs rest : List Char} {c : Char} {t : Token}
    (h : WholeRun (front ++ mid) run after)
    (htoken : head (mid ++ c :: cs) = .token t (mid ++ c :: cs) []) (hends : t.EndsBefore rest)
    (htext : run ++ after = c :: cs ++ rest) : ∃ x, readRun? run = some x := by
  obtain ⟨d, ds, rfl, hd, hds⟩ := h.isRun.exists_cons
  obtain ⟨rfl, htail⟩ := List.cons.inj htext
  obtain ⟨hnumeral, x, rfl, hx⟩ := numeralRun_of_mem htoken
    (List.mem_append_right mid List.mem_cons_self) (isNumeralChar_of_isDigit hd)
  obtain ⟨hmid, hmore⟩ := List.forall_mem_append.1 hnumeral.goesOn
  have hlonger : NumeralRun (mid ++ (d :: ds ++ [])) := by
    obtain ⟨b, hb, hdigit⟩ := hnumeral.begins
    rw [List.append_nil]
    exact ⟨⟨b, by simpa using hb, hdigit⟩, List.forall_mem_append.2 ⟨hmid, h.isRun.goesOn⟩⟩
  obtain ⟨rfl, -⟩ := h.whole mid [] (List.suffix_append _ _) List.nil_prefix hlonger
  have hsame : ds = cs := calc
    ds = (ds ++ after).takeWhile isNumeralChar :=
      (takeWhile_append_of_stop hds h.parts_after).symm
    _ = (cs ++ rest).takeWhile isNumeralChar := congrArg _ htail
    _ = cs := takeWhile_append_of_stop (List.forall_mem_cons.1 hmore).2 hends
  exact ⟨x, hsame ▸ hx⟩

section
variable {cs : List Char} {ts : List Token}

theorem Segmented.known (h : Segmented cs ts) :
    ∀ before c after, cs = before ++ c :: after → Ordinary c ∨
      c = '.' ∧ ∃ left right, left <:+ before ∧ right <+: after ∧
        NumeralRun (left ++ '.' :: right) := by
  induction h with
  | blanks hbs =>
    rintro before c after rfl
    exact .inl (.inl (hbs c (by simp)))
  | @token bs run rest t ts hbs hrun hends _ ih =>
    intro before c after hcs
    obtain ⟨mid, rfl, -⟩ | ⟨mid, rfl, hmid⟩ := append_eq_append_cons_iff.1 hcs
    · exact .inl (.inl (hbs c (by simp)))
    · obtain ⟨mid', rfl, rfl⟩ | ⟨mid', rfl, hrest⟩ := append_eq_append_cons_iff.1 hmid
      · have hc : c ∈ mid ++ c :: mid' := List.mem_append_right _ List.mem_cons_self
        obtain hnum | hname | hsymbol := mem_run_of_head hrun hc
        · obtain ⟨hnumeral, -⟩ := numeralRun_of_mem hrun hc hnum
          obtain hdigit | hpoint := Bool.or_eq_true_iff.1 hnum
          · exact .inl (.inr (.inl hdigit))
          · obtain rfl := beq_iff_eq.1 hpoint
            exact .inr ⟨rfl, mid, mid', List.suffix_append _ _, List.prefix_append _ _, hnumeral⟩
        · exact .inl (.inr (.inr (.inl hname)))
        · exact .inl (.inr (.inr (.inr hsymbol)))
      · obtain hordinary | ⟨rfl, left, right, hleft, hright, hin⟩ := ih mid' c after hrest
        · exact .inl hordinary
        · refine .inr ⟨rfl, left, right, ?_, hright, hin⟩
          rw [← List.append_assoc]
          exact hleft.trans (List.suffix_append _ _)

theorem Segmented.onePoint (h : Segmented cs ts) :
    ∀ before run after, cs = before ++ (run ++ after) → WholeRun before run after →
      run.count '.' ≤ 1 := by
  induction h with
  | blanks hbs =>
    rintro before run after rfl hwhole
    obtain ⟨c, cs, rfl, hc, -⟩ := hwhole.isRun.exists_cons
    cases hc.symm.trans (isDigit_eq_false_of_isBlank (hbs c (by simp)))
  | @token bs piece rest t ts hbs hpiece hends _ ih =>
    intro before run after hcs hwhole
    obtain ⟨c, cs, rfl, hc, -⟩ := hwhole.isRun.exists_cons
    obtain ⟨mid, rfl, -⟩ | ⟨mid, rfl, hmid⟩ := append_eq_append_cons_iff.1 hcs
    · cases hc.symm.trans (isDigit_eq_false_of_isBlank (hbs c (by simp)))
    · obtain ⟨more, rfl, hmore⟩ | ⟨mid, rfl, hrest⟩ := append_eq_append_cons_iff.1 hmid
      · obtain ⟨x, hx⟩ := hwhole.read_of_token hpiece hends (congrArg (List.cons c) hmore)
        by_contra hmany
        rw [hwhole.isRun.readRun?_eq_none_iff.2 (by omega)] at hx
        cases hx
      · rw [← List.append_assoc] at hwhole
        exact ih mid (c :: cs) after hrest hwhole.of_append

theorem Segmented.legible (h : Segmented cs ts) : Legible cs := by
  refine ⟨fun before c after hcs => ?_, h.onePoint⟩
  obtain hordinary | ⟨rfl, left, right, ⟨before, rfl⟩, ⟨after, rfl⟩, hin⟩ :=
    h.known before c after hcs
  · exact .inl hordinary
  · obtain ⟨front, left', right', back, rfl, rfl, hwhole⟩ := hin.exists_whole before after
    refine .inr ⟨rfl, front, left' ++ left, right ++ right', back, ?_⟩
    simpa using hwhole

end

/-! Legible texts fall into tokens. -/

def Parted (before after : List Char) : Prop :=
  (∀ c ∈ before.getLast?, isNumeralChar c = false) ∨ ∀ c ∈ after.head?, isNumeralChar c = false

theorem parted_of_head {before cs run rest : List Char} {t : Token}
    (h : head cs = .token t run rest) : Parted (before ++ run) rest := by
  obtain ⟨-, hrun, hends⟩ := head_eq_token_iff.1 h
  by_cases hlast : ∃ d ∈ run.getLast?, isNumeralChar d = true
  · obtain ⟨d, hd, hnum⟩ := hlast
    obtain ⟨-, x, rfl, -⟩ := numeralRun_of_mem hrun (List.mem_of_getLast? hd) hnum
    exact .inr hends
  · refine .inl fun c hc => Bool.eq_false_iff.2 fun hnum => hlast ⟨c, ?_, hnum⟩
    cases hrun' : run.getLast? with
    | none =>
      rw [List.getLast?_eq_none_iff.1 hrun'] at hrun
      cases hrun
    | some d => rwa [List.getLast?_append, hrun', Option.some_or] at hc

theorem wholeRun_of_head {before cs run rest : List Char} (h : head cs = .badNumeral run rest)
    (hparted : Parted before cs) :
    cs = run ++ rest ∧ WholeRun before run rest ∧ readRun? run = none := by
  cases head_eq_iff.1 h with
  | @badNumeral c cs hc hnone =>
    refine ⟨?_, ?_, hnone⟩
    · rw [List.cons_append, List.takeWhile_append_dropWhile]
    · have hrun : NumeralRun (c :: cs.takeWhile isNumeralChar) :=
        .of_cons hc fun _ => List.mem_takeWhile_imp
      refine hrun.whole (hparted.resolve_right fun hfirst => ?_)
        (head?_dropWhile_eq_false isNumeralChar cs)
      cases (hfirst c rfl).symm.trans (isNumeralChar_of_isDigit hc)

theorem not_parted_of_point {front left right cs : List Char}
    (h : NumeralRun (left ++ '.' :: right)) : ¬ Parted (front ++ left) ('.' :: cs) := by
  rintro (hlast | hfirst)
  · cases hleft : left.getLast? with
    | none =>
      rw [List.getLast?_eq_none_iff.1 hleft] at h
      obtain ⟨c, hc, hdigit⟩ := h.begins
      cases hc
      exact absurd hdigit (by decide)
    | some d =>
      have hnum := h.goesOn d (List.mem_append_left _ (List.mem_of_getLast? hleft))
      rw [List.getLast?_append, hleft, Option.some_or] at hlast
      cases (hlast d rfl).symm.trans hnum
  · exact absurd (hfirst '.' rfl) (by decide)

/-- What has been read so far stays in view: whether a run is whole shows in the whole text only. -/
theorem Legible.exists_segmented {before cs : List Char} (h : Legible (before ++ cs))
    (hparted : Parted before cs) : ∃ ts, Segmented cs ts := by
  induction hn : cs.length using Nat.strong_induction_on generalizing before cs with
  | h n ih =>
    cases hhead : head cs with
    | ended =>
      rw [eq_nil_of_head hhead]
      exact ⟨[], .blanks (by simp)⟩
    | token t run rest =>
      obtain ⟨rfl, hrun, hends⟩ := head_eq_token_iff.1 hhead
      have hrest : Legible ((before ++ run) ++ rest) := by rwa [List.append_assoc]
      obtain ⟨ts, hts⟩ := ih _ (hn ▸ head_token_shorter hhead) hrest (parted_of_head hhead) rfl
      exact ⟨t :: ts, @Segmented.token [] run rest t ts (by simp) hrun hends hts⟩
    | badNumeral run rest =>
      obtain ⟨rfl, hwhole, hnone⟩ := wholeRun_of_head hhead hparted
      have hmost := h.onePoint before run rest rfl hwhole
      have hleast := hwhole.isRun.readRun?_eq_none_iff.1 hnone
      omega
    | stray c =>
      cases head_eq_iff.1 hhead with
      | @stray c cs hdigit hname hsymbol =>
        obtain (hblank | hdigit' | hname' | hsymbol') |
            ⟨rfl, front, left, right, back, rfl, -, hin⟩ := h.known before c cs rfl
        · have hrest : Legible ((before ++ [c]) ++ cs) := by simpa using h
          have hparted' : Parted (before ++ [c]) cs :=
            .inl (by simpa using isNumeralChar_eq_false_of_isBlank hblank)
          obtain ⟨ts, hts⟩ := ih cs.length (by simp [← hn]) hrest hparted' rfl
          exact ⟨ts, @Segmented.blanks_append cs ts [c] (by simpa using hblank) hts⟩
        · cases hdigit.symm.trans hdigit'
        · cases hname.symm.trans hname'
        · obtain ⟨t, ht⟩ := mem_symbols_iff.1 hsymbol'
          cases hsymbol.symm.trans ht
        · cases not_parted_of_point hin.isRun hparted

theorem legible_iff_segmented {cs : List Char} : Legible cs ↔ ∃ ts, Segmented cs ts := by
  constructor
  · intro h
    exact @Legible.exists_segmented [] cs h (.inl (by simp))
  · rintro ⟨ts, hts⟩
    exact hts.legible

end Reckon
