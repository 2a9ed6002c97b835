/-! Names in ascending order of their code points, each once. -/
namespace Reckon.Text

def insertAscending (name : String) : List String → List String
  | [] => [name]
  | other :: names =>
    if name < other then name :: other :: names
    else if name = other then other :: names
    else other :: insertAscending name names

def ascending (names : List String) : List String := names.foldr insertAscending []

theorem mem_insertAscending {s name : String} {names : List String} :
    s ∈ insertAscending name names ↔ s = name ∨ s ∈ names := by
  induction names with
  | nil => simp [insertAscending]
  | cons other names ih =>
    unfold insertAscending
    split
    · simp
    · split
      · next h => subst h; simp
      · simp only [List.mem_cons, ih]
        exact or_left_comm

theorem mem_ascending {s : String} {names : List String} :
    s ∈ ascending names ↔ s ∈ names := by
  induction names with
  | nil => rfl
  | cons name names ih =>
    rw [ascending, List.foldr_cons, mem_insertAscending, List.mem_cons]
    exact or_congr Iff.rfl ih

theorem pairwise_insertAscending {name : String} {names : List String}
    (h : names.Pairwise (· < ·)) : (insertAscending name names).Pairwise (· < ·) := by
  induction names with
  | nil => simp [insertAscending]
  | cons other names ih =>
    obtain ⟨hother, hnames⟩ := List.pairwise_cons.1 h
    unfold insertAscending
    split
    · next hlt =>
      refine List.pairwise_cons.2 ⟨fun s hs => ?_, h⟩
      rcases List.mem_cons.1 hs with rfl | hs
      · exact hlt
      · exact String.lt_trans hlt (hother s hs)
    · next hlt =>
      split
      · exact h
      · next hne =>
        refine List.pairwise_cons.2 ⟨fun s hs => ?_, ih hnames⟩
        rcases mem_insertAscending.1 hs with rfl | hs
        · exact Classical.byContradiction fun hge =>
            hne (String.le_antisymm (String.not_lt.1 hge) (String.not_lt.1 hlt))
        · exact hother s hs

theorem pairwise_ascending (names : List String) : (ascending names).Pairwise (· < ·) := by
  induction names with
  | nil => exact List.Pairwise.nil
  | cons name names ih => exact pairwise_insertAscending ih

end Reckon.Text
