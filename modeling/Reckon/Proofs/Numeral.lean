import Mathlib.Data.List.TakeWhile
import Reckon.Token.Scan

/-! Runs of digits and points. A run that starts with a digit names a number as long as there is at
most one point in it, whatever script its digits are of; so one that names none does not come to
name one by growing. -/
namespace Reckon
open Text Numeral

theorem isLatinDigit_latinDigit {c : Char} (h : isDigit c = true) :
    isLatinDigit (latinDigit c) = true := by
  obtain ⟨d, hd⟩ := Option.isSome_iff_exists.1 h
  have hall : ∀ d < 10, isLatinDigit (Nat.digitChar d) = true := by decide
  simpa [latinDigit, hd] using hall d (digitValue?_lt hd)

theorem latinDigit_of_isNumeralChar {c : Char} (h : isNumeralChar c = true) :
    (isLatinDigit (latinDigit c) = true ∧ c ≠ '.') ∨ c = '.' := by
  obtain hdigit | hpoint := Bool.or_eq_true_iff.1 h
  · refine .inl ⟨isLatinDigit_latinDigit hdigit, ?_⟩
    rintro rfl
    exact absurd hdigit (by decide)
  · exact .inr (beq_iff_eq.1 hpoint)

theorem count_point_map_latinDigit {run : List Char} (h : ∀ c ∈ run, isNumeralChar c = true) :
    (run.map latinDigit).count '.' = run.count '.' := by
  induction run with
  | nil => rfl
  | cons c run ih =>
    obtain ⟨hc, hrun⟩ := List.forall_mem_cons.1 h
    rw [List.map_cons, List.count_cons, List.count_cons, ih hrun]
    obtain ⟨hlatin, hne⟩ | rfl := latinDigit_of_isNumeralChar hc
    · have hne' : latinDigit c ≠ '.' := by
        intro hpoint
        rw [hpoint] at hlatin
        exact absurd hlatin (by decide)
      simp [hne, hne']
    · rfl

theorem point_not_mem_of_digits {cs : List Char} (h : ∀ c ∈ cs, isLatinDigit c = true) :
    '.' ∉ cs := fun hmem => absurd (h '.' hmem) (by decide)

theorem dropWhile_isLatinDigit_eq_nil {cs : List Char}
    (h : ∀ c ∈ cs, isLatinDigit c = true ∨ c = '.') :
    cs.dropWhile isLatinDigit = [] ↔ cs.count '.' = 0 := by
  rw [List.dropWhile_eq_nil_iff, List.count_eq_zero]
  constructor
  · exact point_not_mem_of_digits
  · intro hnone c hc
    obtain hdigit | rfl := h c hc
    · exact hdigit
    · exact absurd hc hnone

theorem fraction?_reads_all_iff {c : Char} {cs : List Char} (hc : isLatinDigit c = true)
    (h : ∀ d ∈ cs, isLatinDigit d = true ∨ d = '.') :
    (∃ d, fraction? (c :: cs) = some (d, [])) ↔ (c :: cs).count '.' ≤ 1 := by
  have hne : c ≠ '.' := by
    rintro rfl
    exact absurd hc (by decide)
  have hwhole : (cs.takeWhile isLatinDigit).count '.' = 0 :=
    List.count_eq_zero.2 (point_not_mem_of_digits fun _ => List.mem_takeWhile_imp)
  have hcount : (c :: cs).count '.' = (cs.dropWhile isLatinDigit).count '.' := by
    have hsplit : cs.takeWhile isLatinDigit ++ cs.dropWhile isLatinDigit = cs :=
      List.takeWhile_append_dropWhile
    rw [List.count_cons_of_ne hne, ← Nat.zero_add ((cs.dropWhile isLatinDigit).count '.'), ← hwhole,
      ← List.count_append, hsplit]
  have hrest : ∀ d ∈ cs.dropWhile isLatinDigit, isLatinDigit d = true ∨ d = '.' := fun d hd =>
    h d ((List.dropWhile_suffix _).subset hd)
  rw [hcount]
  simp only [fraction?, List.takeWhile_cons, List.dropWhile_cons, hc, if_true]
  cases hr : cs.dropWhile isLatinDigit with
  | nil => simp
  | cons d r =>
    have hd : isLatinDigit d = false := by
      have hhead := List.head?_dropWhile_not isLatinDigit cs
      rw [hr] at hhead
      exact hhead
    rw [hr] at hrest
    obtain ⟨hd' | rfl, hr'⟩ := List.forall_mem_cons.1 hrest
    · rw [hd] at hd'
      cases hd'
    · simp [dropWhile_isLatinDigit_eq_nil hr']

/-- A run names a number exactly if it has one point or none. -/
theorem readRun?_eq_none_iff {c : Char} {cs : List Char} (hc : isDigit c = true)
    (h : ∀ d ∈ cs, isNumeralChar d = true) :
    readRun? (c :: cs) = none ↔ 2 ≤ (c :: cs).count '.' := by
  have hrun : ∀ d ∈ c :: cs, isNumeralChar d = true := by
    refine List.forall_mem_cons.2 ⟨?_, h⟩
    rw [isNumeralChar, hc, Bool.true_or]
  have hlatin : ∀ d ∈ cs.map latinDigit, isLatinDigit d = true ∨ d = '.' := by
    intro d hd
    obtain ⟨b, hb, rfl⟩ := List.mem_map.1 hd
    obtain ⟨hdigit, -⟩ | rfl := latinDigit_of_isNumeralChar (h b hb)
    · exact .inl hdigit
    · exact .inr rfl
  have hall := fraction?_reads_all_iff (isLatinDigit_latinDigit hc) hlatin
  rw [← List.map_cons, count_point_map_latinDigit hrun] at hall
  unfold readRun?
  split
  · next d hd =>
    have := hall.1 ⟨d, hd⟩
    simp
    omega
  · next hnone =>
    have hmany : ¬ (c :: cs).count '.' ≤ 1 := by
      intro hle
      obtain ⟨d, hd⟩ := hall.2 hle
      exact hnone d hd
    simp
    omega

theorem readRun?_append_eq_none {c : Char} {cs more : List Char} (hc : isDigit c = true)
    (hcs : ∀ d ∈ cs, isNumeralChar d = true) (hmore : ∀ d ∈ more, isNumeralChar d = true)
    (h : readRun? (c :: cs) = none) : readRun? (c :: (cs ++ more)) = none := by
  have hall : ∀ d ∈ cs ++ more, isNumeralChar d = true := List.forall_mem_append.2 ⟨hcs, hmore⟩
  have htwo := (readRun?_eq_none_iff hc hcs).1 h
  rw [readRun?_eq_none_iff hc hall, ← List.cons_append, List.count_append]
  omega

end Reckon
