/-! Numbers by name, in the order in which the names came up first. Each name is bound once; to bind
it again changes its number, not its place. -/
namespace Reckon

abbrev Bindings := List (String × Float)

namespace Bindings

def insert (name : String) (x : Float) : Bindings → Bindings
  | [] => [(name, x)]
  | (other, y) :: b => if other = name then (name, x) :: b else (other, y) :: insert name x b

theorem lookup_insert_self (b : Bindings) (name : String) (x : Float) :
    (insert name x b).lookup name = some x := by
  induction b with
  | nil => simp [insert]
  | cons e b ih =>
    obtain ⟨k, y⟩ := e
    unfold insert
    split
    · simp
    · next h =>
      have h' : (name == k) = false := beq_eq_false_iff_ne.2 (Ne.symm h)
      simp only [List.lookup_cons, h', ih]

theorem lookup_insert_of_ne (b : Bindings) {name other : String} (h : other ≠ name) (x : Float) :
    (insert name x b).lookup other = b.lookup other := by
  have h' : (other == name) = false := by simpa using h
  induction b with
  | nil => simp [insert, List.lookup_cons, h']
  | cons e b ih =>
    obtain ⟨k, y⟩ := e
    unfold insert
    split
    · next hk =>
      cases hk
      simp [List.lookup_cons, h']
    · simp only [List.lookup_cons, ih]

def insertAll (b : Bindings) (values : List (String × Float)) : Bindings :=
  values.foldl (fun b value => insert value.1 value.2 b) b

/-- Of several numbers for one name the last one counts. -/
def ofList (values : List (String × Float)) : Bindings := insertAll [] values

end Bindings
end Reckon
