import Reckon.Expression
import Reckon.Proofs.Layout
import Reckon.Proofs.Pieces
import Reckon.Proofs.Shifting

/-! Digits of any script. A text with its digits written in Latin has the same tokens at the same
places, so nothing that comes of a formula depends on the script of its digits. Only a run that
names no number is quoted as it was written. -/
namespace Reckon
open Text Numeral Outcome

def latinText (s : String) : String := String.ofList (s.toList.map latinDigit)

def Fault.latin : Fault → Fault
  | badNumeral text position => badNumeral (latinText text) position
  | fault => fault

/-- The same outcome, but for the script of a run that is quoted in a fault. -/
def SameInLatin {α : Type} (x y : Except Fault α) : Prop :=
  y = x ∨ ∃ f, x = .error f ∧ y = .error f.latin

namespace SameInLatin
variable {α β : Type} {x y : Except Fault α}

theorem bind (h : SameInLatin x y) (k : α → Except Fault β) : SameInLatin (x >>= k) (y >>= k) := by
  obtain rfl | ⟨f, rfl, rfl⟩ := h
  · exact .inl rfl
  · exact .inr ⟨f, rfl, rfl⟩

end SameInLatin

/-! Latin digits are digits, and all digits are alike to whatever looks at characters one by one. -/

theorem latinDigit_of_not_isDigit {c : Char} (h : isDigit c = false) : latinDigit c = c := by
  have hnone : digitValue? c = none := by simpa [isDigit] using h
  rw [latinDigit, hnone]
  rfl

section
variable {β : Type} {p : Char → β} {b : β}

theorem apply_latinDigit (h : ∀ c, isDigit c = true → p c = b) (c : Char) :
    p (latinDigit c) = p c := by
  cases hc : isDigit c with
  | true => rw [h c hc, h _ (isDigit_of_isLatinDigit (isLatinDigit_latinDigit hc))]
  | false => rw [latinDigit_of_not_isDigit hc]

end

theorem isDigit_latinDigit (c : Char) : isDigit (latinDigit c) = isDigit c :=
  apply_latinDigit (fun _ hc => hc) c

theorem isNumeralChar_latinDigit (c : Char) : isNumeralChar (latinDigit c) = isNumeralChar c :=
  apply_latinDigit (fun _ hc => isNumeralChar_of_isDigit hc) c

theorem isNameChar_latinDigit (c : Char) : isNameChar (latinDigit c) = isNameChar c := by
  refine apply_latinDigit (b := false) (fun d hd => ?_) c
  rw [isNameChar, hd, Bool.not_true, Bool.and_false]

theorem isBlank_latinDigit (c : Char) : isBlank (latinDigit c) = isBlank c := by
  refine apply_latinDigit (b := false) (fun d hd => ?_) c
  exact isBlank_eq_false (.inl (isNumeralChar_of_isDigit hd))

theorem ofSymbol?_latinDigit (c : Char) : Token.ofSymbol? (latinDigit c) = Token.ofSymbol? c := by
  refine apply_latinDigit (b := none) (fun d hd => ?_) c
  refine Option.eq_none_iff_forall_ne_some.2 fun t ht => ?_
  obtain ⟨hnumeral, -⟩ := not_grows_of_mem_symbols (mem_symbols_iff.2 ⟨t, ht⟩)
  cases hnumeral.symm.trans (isNumeralChar_of_isDigit hd)

theorem latinDigit_latinDigit (c : Char) : latinDigit (latinDigit c) = latinDigit c := by
  cases hc : isDigit c with
  | true => exact latinDigit_of_isLatinDigit (isLatinDigit_latinDigit hc)
  | false => rw [latinDigit_of_not_isDigit hc, latinDigit_of_not_isDigit hc]

theorem readRun?_latin (run : List Char) : readRun? (run.map latinDigit) = readRun? run := by
  have htwice : latinDigit ∘ latinDigit = latinDigit := funext latinDigit_latinDigit
  rw [readRun?, readRun?, List.map_map, htwice]

theorem map_latinDigit_of_isNameChar {cs : List Char} (h : ∀ c ∈ cs, isNameChar c = true) :
    cs.map latinDigit = cs := by
  have hfixed : ∀ c ∈ cs, latinDigit c = c := fun c hc =>
    latinDigit_of_not_isDigit (isDigit_eq_false_of_isNameChar (h c hc))
  rw [List.map_congr_left hfixed, List.map_id']

/-! So a text begins with the same token. -/

def Head.latin : Head → Head
  | ended => ended
  | token t run rest => token t (run.map latinDigit) (rest.map latinDigit)
  | badNumeral run rest => badNumeral (run.map latinDigit) (rest.map latinDigit)
  | stray c => stray c

section
variable {p : Char → Bool}

theorem takeWhile_latin (h : ∀ c, p (latinDigit c) = p c) (cs : List Char) :
    (cs.map latinDigit).takeWhile p = (cs.takeWhile p).map latinDigit := by
  have hp : p ∘ latinDigit = p := funext h
  rw [List.takeWhile_map, hp]

theorem dropWhile_latin (h : ∀ c, p (latinDigit c) = p c) (cs : List Char) :
    (cs.map latinDigit).dropWhile p = (cs.dropWhile p).map latinDigit := by
  have hp : p ∘ latinDigit = p := funext h
  rw [List.dropWhile_map, hp]

end

theorem Begins.latin {cs : List Char} {h : Head} (hb : Begins cs h) :
    Begins (cs.map latinDigit) h.latin := by
  cases hb with
  | ended => exact .ended
  | @numeral c cs x hc hx =>
    rw [Head.latin, List.map_cons, List.map_cons, ← takeWhile_latin isNumeralChar_latinDigit,
      ← dropWhile_latin isNumeralChar_latinDigit]
    refine .numeral ((isDigit_latinDigit c).trans hc) ?_
    rw [takeWhile_latin isNumeralChar_latinDigit, ← List.map_cons, readRun?_latin, hx]
  | @badNumeral c cs hc hx =>
    rw [Head.latin, List.map_cons, List.map_cons, ← takeWhile_latin isNumeralChar_latinDigit,
      ← dropWhile_latin isNumeralChar_latinDigit]
    refine .badNumeral ((isDigit_latinDigit c).trans hc) ?_
    rw [takeWhile_latin isNumeralChar_latinDigit, ← List.map_cons, readRun?_latin, hx]
  | @name c cs hc =>
    have hname : ∀ d ∈ c :: cs.takeWhile isNameChar, isNameChar d = true :=
      List.forall_mem_cons.2 ⟨hc, fun _ => List.mem_takeWhile_imp⟩
    have hrun : latinDigit c :: (cs.map latinDigit).takeWhile isNameChar =
        c :: cs.takeWhile isNameChar := by
      rw [takeWhile_latin isNameChar_latinDigit, ← List.map_cons,
        map_latinDigit_of_isNameChar hname]
    have hbegins := @Begins.name _ (cs.map latinDigit) ((isNameChar_latinDigit c).trans hc)
    rw [hrun, dropWhile_latin isNameChar_latinDigit] at hbegins
    rwa [Head.latin, map_latinDigit_of_isNameChar hname]
  | @symbol c cs t hdigit hname ht =>
    exact .symbol ((isDigit_latinDigit c).trans hdigit) ((isNameChar_latinDigit c).trans hname)
      ((ofSymbol?_latinDigit c).trans ht)
  | @stray c cs hdigit hname ht =>
    rw [List.map_cons, latinDigit_of_not_isDigit hdigit]
    exact .stray hdigit hname ht

theorem head_latin (cs : List Char) : head (cs.map latinDigit) = (head cs).latin :=
  (begins_head cs).latin.head_eq

namespace Cursor

def latin (k : Cursor) : Cursor := ⟨k.rest.map latinDigit, k.position⟩

theorem skipBlanks_latin (k : Cursor) : k.latin.skipBlanks = k.skipBlanks.latin := by
  simp only [skipBlanks, latin, takeWhile_latin isBlank_latinDigit,
    dropWhile_latin isBlank_latinDigit, List.length_map]

theorem next_latin (k : Cursor) :
    k.latin.next = (k.next.1.mapError Fault.latin, k.next.2.latin) := by
  have hrest : k.skipBlanks.latin.rest = k.skipBlanks.rest.map latinDigit := rfl
  simp only [next, skipBlanks_latin, hrest, head_latin]
  cases head k.skipBlanks.rest with
  | ended => rfl
  | token t run rest =>
    simp only [Head.latin, List.length_map]
    rfl
  | badNumeral run rest =>
    simp only [Head.latin, List.length_map, Except.mapError, Fault.latin, latinText,
      String.toList_ofList]
    rfl
  | stray c => rfl

theorem scan_latin (k : Cursor) : k.latin.scan = (k.scan.1, k.scan.2.map Fault.latin) := by
  have hnext : ∀ k : Cursor, k.latin.next =
      ((k.next.1.map (Option.map id)).mapError Fault.latin, k.next.2.latin) := by
    intro k
    rw [Option.map_id, Except.map_id, next_latin]
    rfl
  rw [scan_map hnext, List.map_id]

theorem start_latinText (s : String) : start (latinText s) = (start s).latin := by
  rw [start, start, latinText, String.toList_ofList]
  rfl

end Cursor

theorem tokenize_latinText (s : String) :
    tokenize (latinText s) = (tokenize s).mapError Fault.latin := by
  unfold tokenize
  rw [Cursor.start_latinText, Cursor.scan_latin]
  obtain ⟨ls, _ | fault⟩ := (Cursor.start s).scan <;> rfl

/-- A fault among the brackets comes before one among the tokens behind it, and quotes no run. -/
theorem Formula.read_latinText (limit : Int) (s : String) :
    SameInLatin (read limit s) (read limit (latinText s)) := by
  rw [read, read, Cursor.start_latinText, Cursor.scan_latin]
  obtain ⟨ls, _ | fault⟩ := (Cursor.start s).scan
  · exact .inl rfl
  · have hstops : ∀ f, ofScan limit (ls, some f) =
        (ls.foldlM (Frames.push limit) .empty >>= fun _ => .error f) := fun _ => rfl
    rw [Option.map_some, hstops, hstops]
    cases ls.foldlM (Frames.push limit) .empty with
    | error f => exact .inl rfl
    | ok frames => exact .inr ⟨fault, rfl, rfl⟩

theorem Formula.read_latinText_of_tokenize {s : String} {ls : List Lexeme}
    (h : tokenize s = .ok ls) (limit : Int) : read limit (latinText s) = read limit s := by
  have hscan : (Cursor.start s).scan = (ls, none) := tokenize_eq_ok_iff.1 h
  rw [read, read, Cursor.start_latinText, Cursor.scan_latin, hscan]
  rfl

theorem Expression.read_latinText (settings : Settings) (s : String) :
    SameInLatin (read settings s) (read settings (latinText s)) :=
  (Formula.read_latinText settings.limit s).bind _

theorem solve_latinText (settings : Settings) (s : String) (values : List (String × Float)) :
    SameInLatin (solve settings s values) (solve settings (latinText s) values) :=
  (Expression.read_latinText settings s).bind _

/-- A text that falls into tokens has the same ones when its digits are written in Latin, and so the
same formula, the same unknowns and the same value, or the same fault. One that does not is at fault
in the same way and at the same place, whatever is done with it. -/
theorem digits_of_any_script (s : String) :
    (∀ ls, tokenize (latinText s) = .ok ls ↔ tokenize s = .ok ls) ∧
    (∀ f, tokenize s = .error f → tokenize (latinText s) = .error f.latin) ∧
    ((∃ ls, tokenize s = .ok ls) →
      (∀ limit, Formula.read limit (latinText s) = Formula.read limit s) ∧
      ∀ settings, Expression.read settings (latinText s) = Expression.read settings s ∧
        (Expression.read settings (latinText s)).map Expression.unresolved =
          (Expression.read settings s).map Expression.unresolved ∧
        ∀ values, solve settings (latinText s) values = solve settings s values) ∧
    (∀ limit, SameInLatin (Formula.read limit s) (Formula.read limit (latinText s))) ∧
    ∀ settings values,
      SameInLatin (solve settings s values) (solve settings (latinText s) values) := by
  refine ⟨fun ls => ?_, fun f hf => ?_, fun htokens => ?_,
    fun limit => Formula.read_latinText limit s, fun settings => solve_latinText settings s⟩
  · rw [tokenize_latinText]
    cases tokenize s with
    | ok ls' => exact Iff.rfl
    | error f => exact iff_of_false (fun h => by cases h) (fun h => by cases h)
  · rw [tokenize_latinText, hf]
    rfl
  · obtain ⟨ls, hls⟩ := htokens
    have hread := Formula.read_latinText_of_tokenize hls
    have hexpression : ∀ settings,
        Expression.read settings (latinText s) = Expression.read settings s := fun settings => by
      rw [Expression.read, Expression.read, hread]
    refine ⟨hread, fun settings => ⟨hexpression settings, ?_, fun values => ?_⟩⟩
    · rw [hexpression]
    · rw [solve, solve, hexpression]

set_option maxRecDepth 8000 in
/-- A fullwidth digit, a point and a Devanagari digit in front of a name are the same as `3.5x`, and
two points are one too many in every script. -/
theorem digits_of_two_scripts :
    latinText "３.५x" = "3.5x" ∧ (∃ ls, tokenize "３.५x" = .ok ls) ∧
      tokenize "3.5x" = tokenize "３.५x" ∧
      (∀ settings, Expression.read settings "3.5x" = Expression.read settings "３.५x") ∧
      tokenize "१.२.३" = .error (.badNumeral "१.२.३" 0) ∧
      tokenize "1.2.3" = .error (.badNumeral "1.2.3" 0) := by
  have hlatin : latinText "３.५x" = "3.5x" := by decide
  have hlatin' : latinText "१.२.३" = "1.2.3" := by decide
  have htokens : ∃ ls, tokenize "３.५x" = .ok ls := by
    have hrun : NumeralRun ['３', '.', '५'] := .of_cons (by decide) (List.all_eq_true.1 (by decide))
    obtain ⟨v, hv⟩ : ∃ v, readRun? ['３', '.', '५'] = some v := by
      refine Option.ne_none_iff_exists'.1 fun hnone => ?_
      exact absurd (hrun.readRun?_eq_none_iff.1 hnone) (by decide)
    have hnumeral : head ['３', '.', '५'] = .token (.atom (.number v)) ['３', '.', '५'] [] :=
      (Spells.numeral hrun hv).head_eq
    have hname : head ['x'] = .token (.atom (.unknown "x")) ['x'] [] :=
      head_name (by decide) (by simp)
    have hends : (Token.atom (.number v)).EndsBefore ['x'] := by
      intro c hc
      obtain rfl : 'x' = c := Option.some.inj hc
      exact (by decide : isNumeralChar 'x' = false)
    have hlast : Segmented ['x'] [.atom (.unknown "x")] :=
      @Segmented.token [] ['x'] [] _ _ (by simp) hname (by simp [Token.EndsBefore])
        (.blanks (by simp))
    have hall : Segmented "３.५x".toList [.atom (.number v), .atom (.unknown "x")] :=
      @Segmented.token [] ['３', '.', '५'] ['x'] _ _ (by simp) hnumeral hends hlast
    obtain ⟨ls, hls, -⟩ := segmented_iff_tokenize.1 hall
    exact ⟨ls, hls⟩
  have hbad : tokenize "१.२.३" = .error (.badNumeral "१.२.३" 0) := by cbv
  obtain ⟨hsame, -, hagree, -⟩ := digits_of_any_script "３.५x"
  obtain ⟨-, hfault, -⟩ := digits_of_any_script "१.२.३"
  have hbad' := hfault _ hbad
  obtain ⟨ls, hls⟩ := htokens
  have hls' := (hsame ls).2 hls
  rw [hlatin] at hls' hagree
  rw [hlatin', Fault.latin, hlatin'] at hbad'
  exact ⟨hlatin, ⟨ls, hls⟩, hls'.trans hls.symm, fun settings => ((hagree ⟨ls, hls⟩).2 settings).1,
    hbad, hbad'⟩

end Reckon
