import Reckon.Proofs.Continuation
import Reckon.Proofs.Limit

/-! How a text falls into tokens. In front of each token there may be blanks, and each token is as
long as it can be. Where tokens stand does not matter for this, so texts can be put together: the
tokens of both are those of the whole, unless a numeral or a name runs on across the seam. -/
namespace Reckon
open Text Numeral

/-! Nothing but a blank is skipped: no token begins with one. -/

def blankPoints : List Nat :=
  [9, 10, 11, 12, 13, 28, 29, 30, 31, 32, 0x85, 0xA0, 0x1680, 0x2000, 0x2001, 0x2002, 0x2003,
    0x2004, 0x2005, 0x2006, 0x2007, 0x2008, 0x2009, 0x200A, 0x2028, 0x2029, 0x202F, 0x205F, 0x3000]

theorem mem_blankPoints {c : Char} (h : isBlank c = true) : c.toNat ∈ blankPoints := by
  simp only [isBlank, Bool.or_eq_true, Bool.and_eq_true, decide_eq_true_eq, beq_iff_eq] at h
  simp only [blankPoints, List.mem_cons, List.not_mem_nil, or_false]
  omega

theorem isNameChar_eq_false_of_isBlank {c : Char} (h : isBlank c = true) :
    isNameChar c = false := by
  have hall : ∀ n ∈ blankPoints, covers alphanumericSpans n = false := by decide +kernel
  rw [isNameChar, isAlphanumeric, hall _ (mem_blankPoints h), Bool.false_and]

theorem isDigit_eq_false_of_isBlank {c : Char} (h : isBlank c = true) : isDigit c = false := by
  have hall : ∀ n ∈ blankPoints, (digitZeros.any fun z => z ≤ n && n < z + 10) = false := by
    decide +kernel
  simpa [isDigit, digitValue?] using hall _ (mem_blankPoints h)

theorem ofSymbol?_eq_none_of_isBlank {c : Char} (h : isBlank c = true) :
    Token.ofSymbol? c = none := by
  unfold Token.ofSymbol?
  split <;> first | rfl | exact absurd h (by decide)

theorem not_isBlank_of_head {c : Char} {cs run rest : List Char} {t : Token}
    (h : head (c :: cs) = .token t run rest) : isBlank c = false := by
  refine Bool.eq_false_iff.2 fun hblank => ?_
  cases head_eq_iff.1 h with
  | numeral hdigit => cases hdigit.symm.trans (isDigit_eq_false_of_isBlank hblank)
  | name hname => cases hname.symm.trans (isNameChar_eq_false_of_isBlank hblank)
  | symbol _ _ hsymbol => cases hsymbol.symm.trans (ofSymbol?_eq_none_of_isBlank hblank)

/-! A text begins with a token exactly if it begins with what is this token on its own, and does not
go on with more of its kind. -/

theorem head_numeral {c : Char} {cs : List Char} {x : Float} (hc : isDigit c = true)
    (hcs : ∀ d ∈ cs, isNumeralChar d = true) (hx : readRun? (c :: cs) = some x) :
    head (c :: cs) = .token (.atom (.number x)) (c :: cs) [] := by
  have htake : cs.takeWhile isNumeralChar = cs := List.takeWhile_eq_self_iff.2 hcs
  have hdrop : cs.dropWhile isNumeralChar = [] := List.dropWhile_eq_nil_iff.2 hcs
  rw [← htake] at hx
  have hbegins := Begins.numeral hc hx
  rw [htake, hdrop] at hbegins
  exact hbegins.head_eq

theorem head_name {c : Char} {cs : List Char} (hc : isNameChar c = true)
    (hcs : ∀ d ∈ cs, isNameChar d = true) :
    head (c :: cs) = .token (.atom (.ofName (String.ofList (c :: cs)))) (c :: cs) [] := by
  have htake : cs.takeWhile isNameChar = cs := List.takeWhile_eq_self_iff.2 hcs
  have hdrop : cs.dropWhile isNameChar = [] := List.dropWhile_eq_nil_iff.2 hcs
  have hbegins := @Begins.name c cs hc
  rw [htake, hdrop] at hbegins
  exact hbegins.head_eq

theorem head_of_nameChars {run : List Char} (hne : run ≠ [])
    (h : ∀ c ∈ run, isNameChar c = true) :
    head run = .token (.atom (.ofName (String.ofList run))) run [] := by
  obtain ⟨c, cs, rfl⟩ := List.exists_cons_of_ne_nil hne
  exact head_name (h c List.mem_cons_self) fun d hd => h d (List.mem_cons_of_mem c hd)

theorem isNameChar_of_mem_name (f : Elementary) : ∀ c ∈ f.name.toList, isNameChar c = true := by
  have hall : Elementary.all.all (·.name.toList.all isNameChar) = true := by decide +kernel
  exact List.all_eq_true.1 (List.all_eq_true.1 hall f f.mem_all)

theorem head?_dropWhile_eq_false (p : Char → Bool) (cs : List Char) :
    ∀ c ∈ (cs.dropWhile p).head?, p c = false := by
  intro c hc
  have h := List.head?_dropWhile_not p cs
  rw [hc] at h
  exact h

theorem head_eq_token_iff {cs run rest : List Char} {t : Token} :
    head cs = .token t run rest ↔
      cs = run ++ rest ∧ head run = .token t run [] ∧ t.EndsBefore rest := by
  constructor
  · intro h
    cases head_eq_iff.1 h with
    | @numeral c cs x hc hx =>
      have hown := head_numeral hc (fun _ => List.mem_takeWhile_imp) hx
      refine ⟨?_, hown, head?_dropWhile_eq_false isNumeralChar cs⟩
      rw [List.cons_append, List.takeWhile_append_dropWhile]
    | @name c cs hc =>
      have hown := @head_name c (cs.takeWhile isNameChar) hc fun _ => List.mem_takeWhile_imp
      refine ⟨?_, hown, ?_⟩
      · rw [List.cons_append, List.takeWhile_append_dropWhile]
      · rw [Token.EndsBefore, Token.growsBy_ofName]
        exact head?_dropWhile_eq_false isNameChar cs
    | @symbol c cs t hdigit hname ht =>
      refine ⟨rfl, (Begins.symbol hdigit hname ht).head_eq, ?_⟩
      unfold Token.ofSymbol? at ht
      split at ht <;> cases ht <;> exact fun _ _ => rfl
  · intro h
    obtain ⟨rfl, hrun, hends⟩ := h
    exact head_append hrun (.inr hends)

/-- The text falls into these tokens. -/
inductive Segmented : List Char → List Token → Prop where
  | blanks {bs : List Char} : (∀ c ∈ bs, isBlank c = true) → Segmented bs []
  | token {bs run rest : List Char} {t : Token} {ts : List Token} :
      (∀ c ∈ bs, isBlank c = true) → head run = .token t run [] → t.EndsBefore rest →
        Segmented rest ts → Segmented (bs ++ (run ++ rest)) (t :: ts)

namespace Cursor
variable {k k' : Cursor}

theorem next_of_blanks (h : ∀ c ∈ k.rest, isBlank c = true) :
    k.next = (.ok none, k.skipBlanks) := by
  have hnil : k.rest.dropWhile isBlank = [] := List.dropWhile_eq_nil_iff.2 h
  simp [next, skipBlanks, hnil, head]

theorem next_eq_token_iff {cs : List Char} {position : Nat} {l : Lexeme} :
    (Cursor.mk cs position).next = (.ok (some l), k') ↔
      ∃ bs run, (∀ c ∈ bs, isBlank c = true) ∧ cs = bs ++ (run ++ k'.rest) ∧
        head run = .token l.token run [] ∧ l.token.EndsBefore k'.rest ∧
        l.position = position + bs.length ∧ k'.position = l.position + run.length := by
  constructor
  · intro h
    unfold next at h
    simp only at h
    split at h <;> cases h
    next hhead =>
    obtain ⟨hsplit, hrun, hends⟩ := head_eq_token_iff.1 hhead
    refine ⟨cs.takeWhile isBlank, _, fun _ => List.mem_takeWhile_imp, ?_, hrun, hends, rfl, rfl⟩
    have hall : cs.takeWhile isBlank ++ cs.dropWhile isBlank = cs := List.takeWhile_append_dropWhile
    rw [← hsplit]
    exact hall.symm
  · intro h
    obtain ⟨t, at'⟩ := l
    obtain ⟨rest, position'⟩ := k'
    obtain ⟨bs, run, hbs, rfl, hrun, hends, hat, hposition⟩ := h
    simp only at hrun hends hat hposition
    subst hat hposition
    have hhead := head_eq_token_iff.2 ⟨rfl, hrun, hends⟩
    rw [next_blanks_append hbs]
    cases hcs : run ++ rest with
    | nil =>
      rw [hcs] at hhead
      cases hhead
    | cons c cs =>
      rw [hcs] at hhead
      have hskip : (Cursor.mk (c :: cs) (position + bs.length)).skipBlanks =
          ⟨c :: cs, position + bs.length⟩ := by
        simp [skipBlanks, not_isBlank_of_head hhead]
      simp only [next, hskip, hhead]

end Cursor

section
variable {us vs : List Char} {ts rs : List Token}

theorem segmented_iff_scan (position : Nat) :
    Segmented us ts ↔ ∃ ls, (Cursor.mk us position).scan = (ls, none) ∧ ls.map (·.token) = ts := by
  constructor
  · intro h
    induction h generalizing position with
    | blanks hbs => exact ⟨[], Cursor.scan_of_end (Cursor.next_of_blanks hbs), rfl⟩
    | @token bs run rest t ts hbs hrun hends _ ih =>
      obtain ⟨ls, hls, rfl⟩ := ih (position + bs.length + run.length)
      have hnext : (Cursor.mk (bs ++ (run ++ rest)) position).next =
          (.ok (some ⟨t, position + bs.length⟩), ⟨rest, position + bs.length + run.length⟩) :=
        Cursor.next_eq_token_iff.2 ⟨bs, run, hbs, rfl, hrun, hends, rfl, rfl⟩
      refine ⟨⟨t, position + bs.length⟩ :: ls, ?_, rfl⟩
      rw [Cursor.scan_of_token hnext, hls]
  · intro h
    obtain ⟨ls, hls, rfl⟩ := h
    generalize hk : Cursor.mk us position = k at hls
    induction k using Cursor.scan.induct generalizing us position ls with
    | case1 k l k' hnext _ ls' fault hscan ih =>
      subst hk
      obtain ⟨bs, run, hbs, rfl, hrun, hends, -, -⟩ := Cursor.next_eq_token_iff.1 hnext
      rw [Cursor.scan_of_token hnext] at hls
      obtain ⟨rfl, hnone⟩ := Prod.ext_iff.1 hls
      exact .token hbs hrun hends (ih k'.position _ rfl (Prod.ext rfl hnone))
    | case2 k k' hnext =>
      subst hk
      rw [Cursor.scan_of_end hnext] at hls
      cases hls
      exact .blanks (Cursor.blank_of_next_end hnext)
    | case3 k e k' hnext =>
      subst hk
      rw [Cursor.scan_of_fault hnext] at hls
      cases hls

theorem segmented_iff_tokenize {source : String} :
    Segmented source.toList ts ↔
      ∃ ls, tokenize source = .ok ls ∧ ls.map (·.token) = ts := by
  rw [segmented_iff_scan 0]
  unfold tokenize Cursor.start
  obtain ⟨ls, _ | fault⟩ := (Cursor.mk source.toList 0).scan
  · simp
  · simp

theorem Segmented.blanks_append {bs : List Char} (hbs : ∀ c ∈ bs, isBlank c = true)
    (h : Segmented vs rs) : Segmented (bs ++ vs) rs := by
  cases h with
  | blanks hvs => exact .blanks (List.forall_mem_append.2 ⟨hbs, hvs⟩)
  | token hbs' hrun hends hrest =>
    rw [← List.append_assoc]
    exact .token (List.forall_mem_append.2 ⟨hbs, hbs'⟩) hrun hends hrest

theorem Token.EndsBefore.append {t : Token} (h : t.EndsBefore us) (hvs : PartsFrom vs) :
    t.EndsBefore (us ++ vs) := by
  cases us with
  | nil => exact hvs.endsBefore t
  | cons c us => exact h

theorem Segmented.append (hus : Segmented us ts) (hvs : Segmented vs rs) (hparts : PartsFrom vs) :
    Segmented (us ++ vs) (ts ++ rs) := by
  induction hus with
  | blanks hbs => exact hvs.blanks_append hbs
  | token hbs hrun hends _ ih =>
    rw [List.append_assoc, List.append_assoc]
    exact .token hbs hrun (hends.append hparts) ih

end

theorem head_opener (b : Bracket) : head [b.opener] = .token (.opening b) [b.opener] [] := by
  cases b
  · exact (Begins.symbol (by decide) (by decide) rfl).head_eq
  · exact (Begins.symbol (by decide) (by decide) rfl).head_eq

theorem head_closer (b : Bracket) : head [b.closer] = .token (.closing b) [b.closer] [] := by
  cases b
  · exact (Begins.symbol (by decide) (by decide) rfl).head_eq
  · exact (Begins.symbol (by decide) (by decide) rfl).head_eq

theorem Segmented.opener {cs : List Char} {ts : List Token} (h : Segmented cs ts) (b : Bracket) :
    Segmented (b.opener :: cs) (.opening b :: ts) :=
  @Segmented.token [] [b.opener] cs _ ts (by simp) (head_opener b) (fun _ _ => rfl) h

theorem Segmented.closer {cs : List Char} {ts : List Token} (h : Segmented cs ts) (b : Bracket) :
    Segmented (b.closer :: cs) (.closing b :: ts) :=
  @Segmented.token [] [b.closer] cs _ ts (by simp) (head_closer b) (fun _ _ => rfl) h

namespace Formula

theorem read_eq_ok_iff_segmented {limit : Int} {source : String} {f : Formula} :
    read limit source = .ok f ↔ ∃ ts, Segmented source.toList ts ∧ f.Written ts ∧
      f.depth ≤ limit.toNat := by
  simp only [read_eq_ok, segmented_iff_tokenize]
  constructor
  · intro h
    obtain ⟨ls, hls, hwritten, hdepth⟩ := h
    exact ⟨_, ⟨ls, hls, rfl⟩, hwritten, hdepth⟩
  · intro h
    obtain ⟨_, ⟨ls, hls, rfl⟩, hwritten, hdepth⟩ := h
    exact ⟨ls, hls, hwritten, hdepth⟩

theorem read_of_segmented {source : String} {f : Formula} {ts : List Token}
    (hts : Segmented source.toList ts) (hf : f.Written ts) (limit : Int) :
    read limit source = if f.depth ≤ limit.toNat then .ok f else .error (.tooDeep limit) := by
  split
  · next hd => exact read_eq_ok_iff_segmented.2 ⟨ts, hts, hf, hd⟩
  · next hd =>
    obtain ⟨high, hle, hw⟩ := exists_within 0 f limit
    have hhigh : read high source = .ok f :=
      read_eq_ok_iff_segmented.2 ⟨ts, hts, hf, within_top.1 hw⟩
    refine (read_of_le hle source).resolve_right fun hsame => ?_
    obtain ⟨_, -, -, hdepth⟩ := read_eq_ok.1 (hsame.trans hhigh)
    exact hd hdepth

end Formula
end Reckon
