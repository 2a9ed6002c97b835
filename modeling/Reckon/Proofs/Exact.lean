import Reckon.Proofs.Continuation
import Reckon.Proofs.Kinds
import Reckon.Proofs.Layout

/-! Doubles in full read back: whatever double is written, in whichever notation, its text names
that double, the sign of a zero included. So no two doubles are written alike. -/
namespace Reckon.Numeral
open Text

/-! Scientific notation. -/

def places : List Char → List Char × List Char
  | '.' :: cs => (cs.takeWhile isLatinDigit, cs.dropWhile isLatinDigit)
  | cs => ([], cs)

theorem fraction?_eq (cs : List Char) : fraction? cs =
    let whole := cs.takeWhile isLatinDigit
    let (part, rest) := places (cs.dropWhile isLatinDigit)
    if whole.isEmpty && part.isEmpty then none
    else some (⟨ofDigits (whole ++ part), -(part.length : Int)⟩, rest) := rfl

section
variable {cs us rest : List Char} {c : Decimal}

theorem places_of_ne {d : Char} (h : d ≠ '.') (cs : List Char) :
    places (d :: cs) = ([], d :: cs) := by
  unfold places
  split
  · next heq => cases h (List.cons.inj heq).1
  · rfl

theorem places_append (hus : ∀ d ∈ us.head?, isLatinDigit d = false ∧ d ≠ '.') :
    places (cs ++ us) = ((places cs).1, (places cs).2 ++ us) := by
  cases cs with
  | nil =>
    cases us with
    | nil => rfl
    | cons d us => exact places_of_ne (hus d rfl).2 us
  | cons d cs =>
    by_cases hd : d = '.'
    · obtain ⟨htake, hdrop⟩ :=
        @span_append_of_stop isLatinDigit cs us (.inr fun d hd => (hus d hd).1)
      rw [hd, List.cons_append, places, places, htake, hdrop]
    · rw [List.cons_append, places_of_ne hd, places_of_ne hd, List.cons_append]

theorem fraction?_append (h : fraction? cs = some (c, rest))
    (hus : ∀ d ∈ us.head?, isLatinDigit d = false ∧ d ≠ '.') :
    fraction? (cs ++ us) = some (c, rest ++ us) := by
  obtain ⟨htake, hdrop⟩ :=
    @span_append_of_stop isLatinDigit cs us (.inr fun d hd => (hus d hd).1)
  rw [fraction?_eq] at h ⊢
  simp only [htake, hdrop, places_append hus] at h ⊢
  split at h
  · cases h
  · next hne =>
    rw [if_neg hne]
    cases h
    rfl

end

theorem twoDigits_eq (n : ℕ) : twoDigits n = '0' :: digits n ∨ twoDigits n = digits n := by
  simp only [twoDigits]
  split
  · exact .inl rfl
  · exact .inr rfl

theorem wholeNumber?_digits {ds : List Char} (hne : ds ≠ [])
    (hds : ∀ c ∈ ds, isLatinDigit c = true) : wholeNumber? ds = some (ofDigits ds) := by
  simp [wholeNumber?, hne, List.all_eq_true.2 hds]

theorem isLatinDigit_of_mem_twoDigits {n : ℕ} {c : Char} (h : c ∈ twoDigits n) :
    isLatinDigit c = true := by
  obtain heq | heq := twoDigits_eq n
  · rw [heq] at h
    obtain rfl | h := List.mem_cons.1 h
    · rfl
    · exact isLatinDigit_of_mem_digits h
  · exact isLatinDigit_of_mem_digits (heq ▸ h)

theorem wholeNumber?_twoDigits (n : ℕ) : wholeNumber? (twoDigits n) = some n := by
  have hall := fun c => @isLatinDigit_of_mem_twoDigits n c
  obtain heq | heq := twoDigits_eq n
  · have hsame := ofDigits_zeros_append 1 (digits n)
    rw [wholeNumber?_digits (by simp [heq]) hall, heq]
    exact congrArg some (hsame.trans (ofDigits_digits n))
  · rw [wholeNumber?_digits (by simp [heq, digits_ne_nil]) hall, heq, ofDigits_digits]

def power (order : ℤ) : List Char := (if order < 0 then '-' else '+') :: twoDigits order.natAbs

theorem integer?_power (order : ℤ) : integer? (power order) = some order := by
  unfold power
  split
  · next hneg =>
    have hback : -(order.natAbs : ℤ) = order := by omega
    simp only [integer?, sign, wholeNumber?_twoDigits, if_true]
    exact congrArg some hback
  · next hpos =>
    have hback : (order.natAbs : ℤ) = order := by omega
    simp only [integer?, sign, wholeNumber?_twoDigits, Bool.false_eq_true, if_false]
    exact congrArg some hback

def mantissa : List Char → List Char
  | [] => []
  | [c] => [c]
  | c :: d :: ds => c :: '.' :: d :: ds

theorem scientific_eq (ds : List Char) (order : ℤ) :
    scientific ds order = mantissa ds ++ 'e' :: power order := by
  unfold mantissa
  split
  · rfl
  · rfl
  · rfl

section
variable {ds : List Char}

theorem fraction?_mantissa (hne : ds ≠ []) (hds : ∀ c ∈ ds, isLatinDigit c = true) :
    fraction? (mantissa ds) = some (⟨ofDigits ds, 1 - (ds.length : ℤ)⟩, []) := by
  cases ds with
  | nil => exact absurd rfl hne
  | cons c ds =>
    cases ds with
    | nil =>
      rw [mantissa, fraction?_digits hne hds]
      rfl
    | cons d ds =>
      have hpointed : Pointed (mantissa (c :: d :: ds)) [c] (d :: ds) :=
        ⟨rfl, List.cons_ne_nil _ _, hds⟩
      have hexponent : -((d :: ds).length : ℤ) = 1 - ((c :: d :: ds).length : ℤ) := by
        rw [List.length_cons, List.length_cons, List.length_cons]
        omega
      rw [hpointed.fraction?, hexponent]
      rfl

theorem decimal?_scientific (hne : ds ≠ []) (hds : ∀ c ∈ ds, isLatinDigit c = true) (order : ℤ) :
    decimal? (scientific ds order) = some ⟨ofDigits ds, order + 1 - ds.length⟩ := by
  have hstop : ∀ d ∈ ('e' :: power order).head?, isLatinDigit d = false ∧ d ≠ '.' := by
    simp only [List.head?_cons, Option.mem_def, Option.some.injEq]
    rintro d rfl
    exact ⟨rfl, by decide⟩
  have hread := fraction?_append (fraction?_mantissa hne hds) hstop
  rw [scientific_eq, decimal?, hread]
  have hexponent : 1 - (ds.length : ℤ) + order = order + 1 - ds.length := by omega
  simp [integer?_power, hexponent]

end

/-! Either notation. -/

def marks : List Char := ['.', 'e', '+', '-', 'i', 'n', 'f', 'a']

def isPlain (c : Char) : Bool := isLatinDigit c || marks.contains c

theorem isPlain_of_isLatinDigit {c : Char} (h : isLatinDigit c = true) : isPlain c = true := by
  rw [isPlain, h, Bool.true_or]

/-- Begins with a digit and reads as the value of the decimal. -/
structure Spelling (cs : List Char) (c : Decimal) : Prop where
  starts : ∃ d rest, cs = d :: rest ∧ isLatinDigit d = true
  plain : ∀ d ∈ cs, isPlain d = true
  reads : ∃ c', decimal? cs = some c' ∧ c'.value = c.value

theorem Pointed.spelling {cs us vs : List Char} {c : Decimal} (h : Pointed cs us vs)
    (hvalue : (Decimal.mk (ofDigits (us ++ vs)) (-(vs.length : ℤ))).value = c.value) :
    Spelling cs c := by
  obtain ⟨hus, hvs⟩ := List.forall_mem_append.1 h.digits
  refine ⟨?_, ?_, _, ?_, hvalue⟩
  · obtain ⟨d, us, rfl⟩ := List.exists_cons_of_ne_nil h.starts
    exact ⟨d, _, h.eq, hus d List.mem_cons_self⟩
  · rw [h.eq]
    exact List.forall_mem_append.2 ⟨fun d hd => isPlain_of_isLatinDigit (hus d hd),
      List.forall_mem_cons.2 ⟨by decide, fun d hd => isPlain_of_isLatinDigit (hvs d hd)⟩⟩
  · rw [decimal?, h.fraction?]
    rfl

theorem isPlain_of_mem_mantissa {ds : List Char} (hds : ∀ c ∈ ds, isLatinDigit c = true) :
    ∀ c ∈ mantissa ds, isPlain c = true := by
  have hplain : ∀ c ∈ ds, isPlain c = true := fun c hc => isPlain_of_isLatinDigit (hds c hc)
  unfold mantissa
  split
  · simp
  · exact hplain
  · obtain ⟨hfirst, hrest⟩ := List.forall_mem_cons.1 hplain
    exact List.forall_mem_cons.2 ⟨hfirst, List.forall_mem_cons.2 ⟨by decide, hrest⟩⟩

theorem isPlain_of_mem_power {order : ℤ} : ∀ c ∈ power order, isPlain c = true := by
  refine List.forall_mem_cons.2 ⟨?_, fun c hc =>
    isPlain_of_isLatinDigit (isLatinDigit_of_mem_twoDigits hc)⟩
  split
  · decide
  · decide

theorem spelling_scientific {ds : List Char} {c : Decimal} {order : ℤ} (hne : ds ≠ [])
    (hds : ∀ d ∈ ds, isLatinDigit d = true)
    (hvalue : (Decimal.mk (ofDigits ds) (order + 1 - ds.length)).value = c.value) :
    Spelling (scientific ds order) c := by
  refine ⟨?_, ?_, _, decimal?_scientific hne hds order, hvalue⟩
  · obtain ⟨d, ds, rfl⟩ := List.exists_cons_of_ne_nil hne
    rw [scientific_eq]
    cases ds with
    | nil => exact ⟨d, _, rfl, hds d List.mem_cons_self⟩
    | cons _ _ => exact ⟨d, _, rfl, hds d List.mem_cons_self⟩
  · rw [scientific_eq]
    exact List.forall_mem_append.2 ⟨isPlain_of_mem_mantissa hds,
      List.forall_mem_cons.2 ⟨by decide, isPlain_of_mem_power⟩⟩

theorem spelling_write (c : Decimal) : Spelling (exact.write c) c := by
  have hne := significant_ne_nil (digits_ne_nil c.coefficient)
  have hds : ∀ d ∈ significant (digits c.coefficient), isLatinDigit d = true := fun _ hd =>
    isLatinDigit_of_mem_digits (mem_of_mem_significant hd)
  unfold Layout.write
  simp only
  split
  · obtain ⟨us, vs, hpointed, hvalue⟩ := pointed_positional hne hds (c.order + 1)
    exact hpointed.spelling (hvalue.trans (value_significant c))
  · exact spelling_scientific hne hds (value_significant c)

/-! Doubles with their sign. -/

theorem eq_of_shape_finite {x : Float} {s : Bool} {d : Dyadic} {c : Decimal}
    (h : shape x = .finite s d) (hc : c.bits = d.bits) :
    x = if s then -c.toFloat else c.toFloat := by
  cases s with
  | false => exact (toFloat_of_shape h hc).symm
  | true => rw [if_pos rfl, toFloat_of_shape (shape_neg h) hc, neg_neg_double]

/-! The text as a whole. -/

theorem Spelling.magnitude? {cs : List Char} {c : Decimal} (h : Spelling cs c) :
    magnitude? cs = some c.toFloat := by
  obtain ⟨d, rest, rfl, hd⟩ := h.starts
  obtain ⟨c', hread, hvalue⟩ := h.reads
  have hword : ∀ word ∈ ["inf", "infinity", "nan"], String.ofList (lower (d :: rest)) ≠ word := by
    have hall : ∀ word ∈ ["inf", "infinity", "nan"], ∀ k < 10,
        word.toList.head? ≠ some (Char.ofNat (48 + k)).toLower := by decide
    rintro word hword rfl
    obtain ⟨k, hk, rfl⟩ := exists_of_isLatinDigit hd
    exact hall _ hword k hk (by simp [lower])
  have hinf := hword "inf" (by simp)
  have hinfinity := hword "infinity" (by simp)
  have hnan := hword "nan" (by simp)
  have hsame : c'.toFloat = c.toFloat := by
    rw [Decimal.toFloat, Decimal.toFloat, Decimal.bits_congr hvalue]
  simp [Numeral.magnitude?, hinf, hinfinity, hnan, hread, hsame]

theorem Spelling.unsigned {cs : List Char} {c : Decimal} (h : Spelling cs c) :
    ∀ d ∈ cs.head?, d ≠ '-' ∧ d ≠ '+' := by
  obtain ⟨d, rest, rfl, hd⟩ := h.starts
  simp only [List.head?_cons, Option.mem_def, Option.some.injEq]
  rintro _ rfl
  constructor
  · rintro rfl
    cases hd
  · rintro rfl
    cases hd

theorem double?_signed (s : Bool) {cs : List Char} {x : Float} (h : magnitude? cs = some x)
    (hcs : ∀ c ∈ cs.head?, c ≠ '-' ∧ c ≠ '+') :
    double? (signed s cs) = some (if s then -x else x) := by
  cases s with
  | true => simp [double?, signed, sign, h]
  | false =>
    have hsign : sign cs = (false, cs) := by
      unfold sign
      split
      · exact absurd rfl (hcs '-' rfl).1
      · exact absurd rfl (hcs '+' rfl).2
      · rfl
    simp [double?, signed, hsign, h]

theorem double?_exactText (x : Float) : double? (exactText x).toList = some x := by
  cases h : shape x with
  | nan =>
    have hread : double? (signed false ['n', 'a', 'n']) = some nan :=
      double?_signed false rfl (by simp)
    simp only [exactText, h, String.toList_ofList]
    exact hread.trans (congrArg some (eq_of_shape_nan h).symm)
  | infinite s =>
    have hread : double? (signed s ['i', 'n', 'f']) = some (if s then -infinity else infinity) :=
      double?_signed s rfl (by simp)
    simp only [exactText, h, String.toList_ofList]
    exact hread.trans (congrArg some (eq_of_shape_infinite h).symm)
  | finite s d =>
    obtain ⟨hd, hbits, -⟩ := canonical_of_shape h
    have hspelling := spelling_write (shortest d.bits d)
    have hread := double?_signed s hspelling.magnitude? hspelling.unsigned
    rw [← eq_of_shape_finite h (bits_shortest hd), ← hbits] at hread
    simp only [exactText, h, String.toList_ofList]
    exact hread

theorem isPlain_of_mem_signed {s : Bool} {cs : List Char} (h : ∀ c ∈ cs, isPlain c = true) :
    ∀ c ∈ signed s cs, isPlain c = true := by
  cases s with
  | true => exact List.forall_mem_cons.2 ⟨by decide, h⟩
  | false => exact h

theorem isPlain_of_mem_exactText (x : Float) : ∀ c ∈ (exactText x).toList, isPlain c = true := by
  have hnan : ['n', 'a', 'n'].all isPlain = true := by decide
  have hinf : ['i', 'n', 'f'].all isPlain = true := by decide
  cases h : shape x with
  | nan =>
    simp only [exactText, h, String.toList_ofList]
    exact List.all_eq_true.1 hnan
  | infinite s =>
    simp only [exactText, h, String.toList_ofList]
    exact isPlain_of_mem_signed (List.all_eq_true.1 hinf)
  | finite s d =>
    simp only [exactText, h, String.toList_ofList]
    exact isPlain_of_mem_signed (spelling_write _).plain

theorem trimBy_eq_self {p : Char → Bool} {cs : List Char} (h : ∀ c ∈ cs, p c = false) :
    trimBy p cs = cs := by
  have hdrop : ∀ ds : List Char, (∀ c ∈ ds, p c = false) → ds.dropWhile p = ds := fun ds hds =>
    List.dropWhile_eq_self_iff.2 fun hpos => by simp [hds _ (List.getElem_mem hpos)]
  have hreverse : ∀ c ∈ cs.reverse, p c = false := fun c hc => h c (List.mem_reverse.1 hc)
  rw [trimBy, hdrop cs h, trimEndBy, hdrop cs.reverse hreverse, List.reverse_reverse]

theorem ungroup_eq_self {cs : List Char} (h : ∀ c ∈ cs, c ≠ '_') (afterDigit : Bool) :
    ungroup afterDigit cs = some cs := by
  induction cs generalizing afterDigit with
  | nil => rfl
  | cons c cs ih =>
    obtain ⟨hc, hcs⟩ := List.forall_mem_cons.1 h
    rw [ungroup, ih hcs, Option.map_some]
    exact hc

theorem unchanged_of_isPlain {c : Char} (h : isPlain c = true) :
    isMargin c = false ∧ latinDigit c = c ∧ c ≠ '_' := by
  have hdigits : ∀ d < 10, isMargin (Char.ofNat (48 + d)) = false ∧
      Char.ofNat (48 + d) ≠ '_' := by decide
  have hmarks : marks.all (fun c => !isMargin c && c != '_' && latinDigit c == c) = true := by
    decide
  obtain hdigit | hmark := Bool.or_eq_true_iff.1 h
  · obtain ⟨d, hd, hchar⟩ := exists_of_isLatinDigit hdigit
    obtain ⟨hmargin, hgroup⟩ := hdigits d hd
    rw [← hchar] at hmargin hgroup
    exact ⟨hmargin, latinDigit_of_isLatinDigit hdigit, hgroup⟩
  · have hall := List.all_eq_true.1 hmarks c (List.contains_iff_mem.1 hmark)
    simp only [Bool.and_eq_true, Bool.not_eq_true', bne_iff_ne, beq_iff_eq] at hall
    obtain ⟨⟨hmargin, hgroup⟩, hlatin⟩ := hall
    exact ⟨hmargin, hlatin, hgroup⟩

theorem latinForm_eq_self {cs : List Char} (h : ∀ c ∈ cs, isPlain c = true) :
    latinForm cs = some cs := by
  have hall := fun c hc => unchanged_of_isPlain (h c hc)
  have htrim : trimBy isMargin cs = cs := trimBy_eq_self fun c hc => (hall c hc).1
  have hlatin : cs.map latinDigit = cs := by
    rw [List.map_congr_left fun c hc => (hall c hc).2.1, List.map_id']
  rw [latinForm, htrim, hlatin, ungroup_eq_self fun c hc => (hall c hc).2.2]

/-- A double reads back from its text. -/
theorem read?_exactText (x : Float) : read? (exactText x) = some x := by
  rw [read?, latinForm_eq_self (isPlain_of_mem_exactText x), Option.bind_eq_bind, Option.bind_some,
    double?_exactText]

theorem exactText_injective : Function.Injective exactText := by
  intro x y h
  have hx := read?_exactText x
  rw [h, read?_exactText] at hx
  exact (Option.some.inj hx).symm

end Reckon.Numeral
