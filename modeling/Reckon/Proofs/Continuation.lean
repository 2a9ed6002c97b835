import Reckon.Proofs.Numeral
import Reckon.Proofs.Reading

/-! Texts that go on. What is wrong with a text is wrong with every longer text that begins with it,
but for brackets that are still open: these can be closed in what follows. So a text is unclosed
exactly if it is not read and could be the beginning of one that is. -/
namespace Reckon
open Text Outcome

/-! More text behind a token leaves it as it is, unless the token is a numeral or a name at the very
end and the text goes on with characters of its kind. -/

theorem span_append_of_stop {p : Char → Bool} {cs : List Char} (us : List Char)
    (h : cs.dropWhile p ≠ [] ∨ ∀ c ∈ us.head?, p c = false) :
    (cs ++ us).takeWhile p = cs.takeWhile p ∧ (cs ++ us).dropWhile p = cs.dropWhile p ++ us := by
  induction cs with
  | nil =>
    have hus := h.resolve_left fun hne => hne rfl
    cases us with
    | nil => exact ⟨rfl, rfl⟩
    | cons c us =>
      have hc : p c = false := hus c rfl
      simp [hc]
  | cons c cs ih =>
    by_cases hc : p c = true
    · rw [List.dropWhile_cons_of_pos hc] at h
      simp [hc, ih h]
    · simp [hc]

theorem takeWhile_append_longer (p : Char → Bool) (cs us : List Char) :
    ∃ more, (∀ c ∈ more, p c = true) ∧ (cs ++ us).takeWhile p = cs.takeWhile p ++ more := by
  by_cases h : cs.dropWhile p = []
  · have hall := List.dropWhile_eq_nil_iff.1 h
    refine ⟨us.takeWhile p, fun _ => List.mem_takeWhile_imp, ?_⟩
    rw [List.takeWhile_append_of_pos hall, List.takeWhile_eq_self_iff.2 hall]
  · refine ⟨[], by simp, ?_⟩
    rw [(span_append_of_stop us (.inl h)).1, List.append_nil]

def Token.growsBy : Token → Char → Bool
  | .atom (.number _) => isNumeralChar
  | .atom (.unknown _) => isNameChar
  | .atom (.function _) => isNameChar
  | _ => fun _ => false

/-- The text does not go on with characters that would belong to the token. -/
def Token.EndsBefore (t : Token) (us : List Char) : Prop := ∀ c ∈ us.head?, t.growsBy c = false

theorem Token.growsBy_ofName (s : String) : (Token.atom (.ofName s)).growsBy = isNameChar := by
  unfold Atom.ofName
  split
  · rfl
  · rfl

def PartsFrom (us : List Char) : Prop :=
  ∀ c ∈ us.head?, isNumeralChar c = false ∧ isNameChar c = false

theorem PartsFrom.endsBefore {us : List Char} (h : PartsFrom us) (t : Token) :
    t.EndsBefore us := by
  intro c hc
  unfold Token.growsBy
  split
  · exact (h c hc).1
  · exact (h c hc).2
  · exact (h c hc).2
  · rfl

theorem eq_nil_of_head {cs : List Char} (h : head cs = .ended) : cs = [] := by
  cases head_eq_iff.1 h
  rfl

/-- The token stays, if what is new is parted from it or does not go on with it. -/
theorem head_append {cs run rest us : List Char} {t : Token} (h : head cs = .token t run rest)
    (hstop : rest ≠ [] ∨ t.EndsBefore us) : head (cs ++ us) = .token t run (rest ++ us) := by
  cases head_eq_iff.1 h with
  | @numeral c cs x hc hx =>
    obtain ⟨htake, hdrop⟩ := span_append_of_stop us hstop
    rw [← htake, ← hdrop]
    rw [← htake] at hx
    exact (Begins.numeral hc hx).head_eq
  | @name c cs hc =>
    rw [Token.EndsBefore, Token.growsBy_ofName] at hstop
    obtain ⟨htake, hdrop⟩ := span_append_of_stop us hstop
    rw [← htake, ← hdrop]
    exact (Begins.name hc).head_eq
  | symbol hdigit hname ht => exact (Begins.symbol hdigit hname ht).head_eq

theorem head_append_stray {cs : List Char} {c : Char} (us : List Char) (h : head cs = .stray c) :
    head (cs ++ us) = .stray c := by
  cases head_eq_iff.1 h with
  | stray hdigit hname ht => exact (Begins.stray hdigit hname ht).head_eq

theorem head_append_badNumeral {cs run rest : List Char} (us : List Char)
    (h : head cs = .badNumeral run rest) :
    ∃ run' rest', head (cs ++ us) = .badNumeral run' rest' := by
  cases head_eq_iff.1 h with
  | @badNumeral c cs hc hnone =>
    obtain ⟨more, hmore, htake⟩ := takeWhile_append_longer isNumeralChar cs us
    have hlonger := readRun?_append_eq_none hc (fun _ => List.mem_takeWhile_imp) hmore hnone
    rw [← htake] at hlonger
    exact ⟨_, _, (Begins.badNumeral hc hlonger).head_eq⟩

namespace Cursor

def extend (k : Cursor) (us : List Char) : Cursor := ⟨k.rest ++ us, k.position⟩

variable {k k' : Cursor}

theorem skipBlanks_extend (us : List Char) (h : k.skipBlanks.rest ≠ []) :
    (k.extend us).skipBlanks = k.skipBlanks.extend us := by
  obtain ⟨htake, hdrop⟩ := span_append_of_stop us (.inl h)
  simp only [skipBlanks, extend, htake, hdrop]

theorem skipBlanks_ne_nil_of_head {h : Head} (hk : head k.skipBlanks.rest = h) (hh : h ≠ .ended) :
    k.skipBlanks.rest ≠ [] := by
  intro hnil
  rw [hnil] at hk
  exact hh hk.symm

theorem next_extend {us : List Char} {l : Lexeme} (h : k.next = (.ok (some l), k'))
    (hstop : k'.rest ≠ [] ∨ l.token.EndsBefore us) :
    (k.extend us).next = (.ok (some l), k'.extend us) := by
  unfold next at h
  simp only at h
  split at h <;> cases h
  next hhead =>
  have hskip := skipBlanks_extend us (skipBlanks_ne_nil_of_head hhead (by simp))
  simp only [next, hskip]
  simp only [extend, head_append hhead hstop]

theorem next_extend_fault {f : Fault} (us : List Char) (h : k.next = (.error f, k')) :
    ∃ g k'', (k.extend us).next = (.error g, k'') ∧ g.kind = f.kind := by
  unfold next at h
  simp only at h
  split at h <;> cases h
  · next run rest hhead =>
    obtain ⟨run', rest', hhead'⟩ := head_append_badNumeral us hhead
    have hskip := skipBlanks_extend us (skipBlanks_ne_nil_of_head hhead (by simp))
    simp only [next, hskip]
    simp only [extend, hhead']
    exact ⟨_, _, rfl, rfl⟩
  · next c hhead =>
    have hskip := skipBlanks_extend us (skipBlanks_ne_nil_of_head hhead (by simp))
    simp only [next, hskip]
    simp only [extend, head_append_stray us hhead]
    exact ⟨_, _, rfl, rfl⟩

theorem kind_of_next_fault {f : Fault} (h : k.next = (.error f, k')) :
    f.kind = .unexpectedToken := by
  unfold next at h
  simp only at h
  split at h <;> cases h
  · rfl
  · rfl

theorem blank_of_next_end (h : k.next = (.ok none, k')) : ∀ c ∈ k.rest, isBlank c = true := by
  unfold next at h
  simp only at h
  split at h <;> cases h
  next hhead => exact List.dropWhile_eq_nil_iff.1 (eq_nil_of_head hhead)

theorem next_blanks_append {blanks : List Char} (hb : ∀ c ∈ blanks, isBlank c = true)
    (cs : List Char) (position : Nat) :
    (Cursor.mk (blanks ++ cs) position).next = (Cursor.mk cs (position + blanks.length)).next := by
  have hskip : (Cursor.mk (blanks ++ cs) position).skipBlanks =
      (Cursor.mk cs (position + blanks.length)).skipBlanks := by
    simp only [skipBlanks, List.dropWhile_append_of_pos hb, List.takeWhile_append_of_pos hb,
      List.length_append, Nat.add_assoc]
  simp only [next, hskip]

theorem next_closer (b : Bracket) (cs : List Char) (position : Nat) :
    (Cursor.mk (b.closer :: cs) position).next =
      (.ok (some ⟨.closing b, position⟩), ⟨cs, position + 1⟩) := by
  have hblank : isBlank b.closer = false := by cases b <;> decide
  have hdigit : isDigit b.closer = false := by cases b <;> decide
  have hname : isNameChar b.closer = false := by cases b <;> decide
  have hsymbol : Token.ofSymbol? b.closer = some (.closing b) := by cases b <;> rfl
  have hhead : head (b.closer :: cs) = .token (.closing b) [b.closer] cs :=
    (Begins.symbol hdigit hname hsymbol).head_eq
  simp [next, skipBlanks, hblank, hhead]

end Cursor

theorem partsFrom_cons {c : Char} (h : isNumeralChar c = false ∧ isNameChar c = false)
    (cs : List Char) : PartsFrom (c :: cs) := by
  intro d hd
  rw [← Option.some.inj hd]
  exact h

theorem partsFrom_closers (bs : List Bracket) : PartsFrom (bs.map Bracket.closer) := by
  cases bs with
  | nil => simp [PartsFrom]
  | cons b bs => exact partsFrom_cons (by cases b <;> decide) _

namespace Frames
open Cursor
variable {limit : Int} {s : Frames} {k k' : Cursor} {f : Fault}

/-- What is read from a place in the text on, when so much has been read in front of it. -/
def resume (limit : Int) (s : Frames) (k : Cursor) : Except Fault Formula := do
  let s ← k.scan.1.foldlM (push limit) s
  match k.scan.2 with
  | some f => .error f
  | none => s.finish

theorem resume_of_token {l : Lexeme} (h : k.next = (.ok (some l), k')) (s : Frames) :
    s.resume limit k = push limit s l >>= fun s' => s'.resume limit k' := by
  unfold resume
  rw [scan_of_token h, List.foldlM_cons]
  cases push limit s l <;> rfl

theorem resume_of_end (h : k.next = (.ok none, k')) (s : Frames) :
    s.resume limit k = s.finish := by
  unfold resume
  rw [scan_of_end h]
  rfl

theorem resume_of_fault (h : k.next = (.error f, k')) (s : Frames) :
    s.resume limit k = .error f := by
  unfold resume
  rw [scan_of_fault h]
  rfl

theorem kind_of_finish (h : s.finish = .error f) : f.kind = .missingItems := by
  unfold finish at h
  split at h <;> cases h
  rfl

theorem kind_of_push {l : Lexeme} (h : push limit s l = .error f) : f.kind ≠ .missingItems := by
  unfold push at h
  split at h
  · cases h
  · split at h <;> cases h
    simp [Fault.kind]
  · split at h
    · split at h <;> cases h
      simp [Fault.kind]
    · cases h
      simp [Fault.kind]

theorem resume_of_nil (h : k.rest = []) (s : Frames) : s.resume limit k = s.finish := by
  obtain ⟨rest, position⟩ := k
  obtain rfl : rest = [] := h
  exact resume_of_end rfl s

theorem parted_of_resume_fault {l : Lexeme}
    (h : (push limit s l >>= fun s' => s'.resume limit k') = .error f)
    (hf : f.kind ≠ .missingItems) : k'.rest ≠ [] ∨ ∀ us, l.token.EndsBefore us := by
  cases hl : l.token with
  | opening b => exact .inr fun _ _ _ => rfl
  | closing b => exact .inr fun _ _ _ => rfl
  | atom a =>
    refine .inl fun hnil => hf ?_
    rw [push_atom hl, ok_bind, resume_of_nil hnil] at h
    exact kind_of_finish h

/-- What follows a text can close the brackets in it: any other fault is there to stay. -/
theorem resume_extend_fault (h : s.resume limit k = .error f) (hf : f.kind ≠ .missingItems)
    (us : List Char) : ∃ g, s.resume limit (k.extend us) = .error g ∧ g.kind = f.kind := by
  induction k using Cursor.scan.induct generalizing s with
  | case1 k l k' hnext _ ls fault hscan ih =>
    rw [resume_of_token hnext] at h
    have hnext' : (k.extend us).next = (.ok (some l), k'.extend us) :=
      next_extend hnext ((parted_of_resume_fault h hf).imp_right (· us))
    rw [resume_of_token hnext']
    cases hpush : push limit s l with
    | error e =>
      rw [hpush] at h
      cases h
      exact ⟨_, rfl, rfl⟩
    | ok s' =>
      rw [hpush] at h
      exact ih h
  | case2 k k' hnext =>
    rw [resume_of_end hnext] at h
    exact absurd (kind_of_finish h) hf
  | case3 k e k' hnext =>
    rw [resume_of_fault hnext] at h
    cases h
    obtain ⟨g, k'', hnext', hkind⟩ := next_extend_fault us hnext
    exact ⟨g, resume_of_fault hnext' s, hkind⟩

theorem resume_congr (h : k.next = k'.next) (s : Frames) :
    s.resume limit k = s.resume limit k' := by
  obtain ⟨outcome, k'', hk⟩ : ∃ outcome k'', k.next = (outcome, k'') := ⟨_, _, rfl⟩
  have hk' := h.symm.trans hk
  match outcome with
  | .ok (some l) => rw [resume_of_token hk, resume_of_token hk']
  | .ok none => rw [resume_of_end hk, resume_of_end hk']
  | .error e => rw [resume_of_fault hk, resume_of_fault hk']

theorem resume_closers (limit : Int) (row : Formula) (outer : List (Bracket × Formula))
    (position : Nat) : ∃ g, (Frames.mk row outer).resume limit
      ⟨(outer.map (·.1)).map Bracket.closer, position⟩ = .ok g := by
  induction outer generalizing row position with
  | nil => exact ⟨row.reverse, resume_of_nil rfl _⟩
  | cons opened outer ih =>
    obtain ⟨b, r⟩ := opened
    obtain ⟨g, hg⟩ := ih (.group row.reverse r) (position + 1)
    refine ⟨g, ?_⟩
    rw [List.map_cons, List.map_cons, resume_of_token (next_closer b _ position),
      push_closing rfl, if_pos rfl, ok_bind, hg]

/-- What is unclosed is read once the brackets that it leaves open are closed. -/
theorem resume_complete (h : s.resume limit k = .error f) (hf : f.kind = .missingItems) :
    ∃ (bs : List Bracket) (g : Formula),
      s.resume limit (k.extend (bs.map Bracket.closer)) = .ok g := by
  induction k using Cursor.scan.induct generalizing s with
  | case1 k l k' hnext _ ls fault hscan ih =>
    rw [resume_of_token hnext] at h
    cases hpush : push limit s l with
    | error e =>
      rw [hpush] at h
      cases h
      exact absurd hf (kind_of_push hpush)
    | ok s' =>
      rw [hpush] at h
      obtain ⟨bs, g, hg⟩ := ih h
      refine ⟨bs, g, ?_⟩
      have hnext' := next_extend hnext (.inr ((partsFrom_closers bs).endsBefore l.token))
      rw [resume_of_token hnext', hpush, ok_bind, hg]
  | case2 k k' hnext =>
    -- Blanks may be left, and they stand between the last token and the brackets.
    obtain ⟨g, hg⟩ := resume_closers limit s.row s.outer (k.position + k.rest.length)
    refine ⟨s.outer.map (·.1), g, ?_⟩
    rw [← hg]
    exact resume_congr (next_blanks_append (blank_of_next_end hnext) _ _) s
  | case3 k e k' hnext =>
    rw [resume_of_fault hnext] at h
    cases h
    cases hf.symm.trans (kind_of_next_fault hnext)

end Frames

namespace Formula
open Frames

theorem read_eq_resume (limit : Int) (source : String) :
    read limit source = empty.resume limit (Cursor.start source) := rfl

theorem read_append (limit : Int) (source more : String) :
    read limit (source ++ more) =
      empty.resume limit ((Cursor.start source).extend more.toList) := by
  rw [read_eq_resume, Cursor.start, String.toList_append]
  rfl

/-- A text is unclosed exactly if only its end is missing; any other fault stays, whatever may
follow. -/
theorem read_unclosed_iff_completable (limit : Int) (source : String) :
    ((∃ fault, read limit source = .error fault ∧ fault.kind = .missingItems) ↔
      (∀ f, read limit source ≠ .ok f) ∧
        ∃ (more : String) (f : Formula), read limit (source ++ more) = .ok f) ∧
    ∀ fault, read limit source = .error fault →
      fault.kind = .unexpectedToken ∨ fault.kind = .nestingTooDeep →
        ∀ more, ∃ fault', read limit (source ++ more) = .error fault' ∧
          fault'.kind = fault.kind := by
  have hstays : ∀ fault, read limit source = .error fault → fault.kind ≠ .missingItems →
      ∀ more, ∃ fault', read limit (source ++ more) = .error fault' ∧
        fault'.kind = fault.kind := by
    intro fault hfault hkind more
    rw [read_append]
    exact resume_extend_fault hfault hkind more.toList
  refine ⟨⟨?_, ?_⟩, ?_⟩
  · intro h
    obtain ⟨fault, hfault, hkind⟩ := h
    obtain ⟨bs, f, hf⟩ := resume_complete hfault hkind
    refine ⟨fun g hg => ?_, String.ofList (bs.map Bracket.closer), f, ?_⟩
    · cases hfault.symm.trans hg
    · rw [read_append, String.toList_ofList, hf]
  · intro h
    obtain ⟨hnone, more, f, hf⟩ := h
    cases hfault : read limit source with
    | ok g => exact absurd hfault (hnone g)
    | error fault =>
      refine ⟨fault, rfl, Classical.byContradiction fun hkind => ?_⟩
      obtain ⟨fault', hfault', -⟩ := hstays fault hfault hkind more
      cases hf.symm.trans hfault'
  · intro fault hfault hkind
    refine hstays fault hfault fun hmissing => ?_
    rw [hmissing] at hkind
    cases hkind with
    | inl h => cases h
    | inr h => cases h

set_option maxRecDepth 8000 in
/-- A bracket can be closed later on, but what the other family has closed stays wrong. -/
theorem read_open_bracket :
    (∃ more f, read 1 ("(x" ++ more) = .ok f) ∧ ∀ more f, read 1 ("(x]" ++ more) ≠ .ok f := by
  have hscan : (Cursor.start "(x").scan =
      ([⟨.opening .round, 0⟩, ⟨.atom (.unknown "x"), 1⟩], none) := by
    cbv
  have hscan' : (Cursor.start "(x]").scan =
      ([⟨.opening .round, 0⟩, ⟨.atom (.unknown "x"), 1⟩, ⟨.closing .square, 2⟩], none) := by
    cbv
  have hopen : read 1 "(x" = .error .unclosed := by
    rw [read, hscan]
    rfl
  have hstray : read 1 "(x]" = .error (.strayClosing .square 2) := by
    rw [read, hscan']
    rfl
  refine ⟨((read_unclosed_iff_completable 1 "(x").1.1 ⟨_, hopen, rfl⟩).2, fun more f hf => ?_⟩
  obtain ⟨fault, hfault, -⟩ :=
    (read_unclosed_iff_completable 1 "(x]").2 _ hstray (.inl rfl) more
  cases hf.symm.trans hfault

end Formula
end Reckon
