import Reckon.Plain.Document

/-! Documents as trees of values, built from the nodes that are read. -/
namespace Reckon.Plain
open Text Numeral Yaml

/-- Truth values and whole floats are the same key as the number they are equal to. -/
def keyForm : Scalar → Scalar
  | .bool b => .int (if b then 1 else 0)
  | .float x =>
    match wholeMagnitude? x with
    | some n => .int (if isNegative x then -(n : Int) else n)
    | none => .float x
  | key => key

section
variable {α : Type} {key k : Scalar} {v : α} {entries : List (Scalar × α)}

/-- An entry takes the place of the earlier one with the same key. -/
def insertEntry (key : Scalar) (v : α) : List (Scalar × α) → List (Scalar × α)
  | [] => [(key, v)]
  | (other, w) :: entries =>
    if keyForm other = keyForm key then (other, v) :: entries
    else (other, w) :: insertEntry key v entries

theorem names_insertEntry (key : Scalar) (v : α) (entries : List (Scalar × α)) :
    names (insertEntry key v entries) = names entries ∨
      names (insertEntry key v entries) = names entries ++ key.text?.toList ∧
        ∀ e ∈ entries, keyForm e.1 ≠ keyForm key := by
  -- An entry that is replaced keeps its own key, so only what comes last can bring a new name.
  induction entries with
  | nil =>
    refine .inr ⟨?_, by simp⟩
    cases h : key.text? <;> simp [insertEntry, names, h]
  | cons e entries ih =>
    obtain ⟨other, w⟩ := e
    by_cases hsame : keyForm other = keyForm key
    · refine .inl ?_
      rw [insertEntry, if_pos hsame]
      rfl
    · have hcons : ∀ more : List (Scalar × α),
          names ((other, w) :: more) = other.text?.toList ++ names more := fun more => by
        cases h : other.text? <;> simp [names, h]
      rw [insertEntry, if_neg hsame, hcons, hcons]
      refine ih.imp (fun h => by rw [h]) fun h => ⟨?_, ?_⟩
      · rw [h.1, List.append_assoc]
      · exact List.forall_mem_cons.2 ⟨hsame, h.2⟩

theorem nodup_names_insertEntry (h : (names entries).Nodup) (key : Scalar) (v : α) :
    (names (insertEntry key v entries)).Nodup := by
  obtain hnames | ⟨hnames, hother⟩ := names_insertEntry key v entries
  · rwa [hnames]
  · rw [hnames]
    cases hkey : key.text? with
    | none => simpa using h
    | some name =>
      obtain rfl := Scalar.text?_eq_some_iff.1 hkey
      have hname : name ∉ names entries := fun hin => by
        obtain ⟨w, hw⟩ := mem_names.1 hin
        exact hother _ hw rfl
      exact List.nodup_append.2 ⟨h, List.pairwise_singleton _ name, by grind⟩

def mappingOf (entries : List (Scalar × α)) : Mapping α :=
  entries.foldl (fun m e =>
    ⟨insertEntry e.1 e.2 m.entries, nodup_names_insertEntry m.nodup_names _ _⟩) .empty

end

inductive Tree where
  | scalar (s : Scalar)
  | list (items : List Tree)
  | mapping (entries : List (Scalar × Tree))

def Tree.layer : Tree → Layer Tree
  | scalar s => .scalar s
  | list items => .list items
  | mapping entries => .mapping (mappingOf entries)

def sextet? (c : Char) : Option Nat :=
  if 'A' ≤ c && c ≤ 'Z' then some (c.toNat - 65)
  else if 'a' ≤ c && c ≤ 'z' then some (c.toNat - 71)
  else if '0' ≤ c && c ≤ '9' then some (c.toNat + 4)
  else if c = '+' then some 62
  else if c = '/' then some 63
  else none

def sextet (c : Char) : Nat := (sextet? c).getD 0

def ofBase64 : List Char → Option (List UInt8)
  | [] => some []
  | [a, b, '=', '='] => some [.ofNat (sextet a * 4 + sextet b / 16)]
  | [a, b, c, '='] =>
    some [.ofNat (sextet a * 4 + sextet b / 16), .ofNat (sextet b % 16 * 16 + sextet c / 4)]
  | a :: b :: c :: d :: rest => do
    return .ofNat (sextet a * 4 + sextet b / 16) ::
      .ofNat (sextet b % 16 * 16 + sextet c / 4) ::
      .ofNat (sextet c % 4 * 64 + sextet d) :: (← ofBase64 rest)
  | _ => none

/-- What is no digit of base 64 counts for nothing. -/
def bytes? (cs : List Char) : Option (List UInt8) :=
  ofBase64 (cs.filter fun c => (sextet? c).isSome || c == '=')

/-- Two scalars are reserved: one for mappings to be merged, and one for a default. -/
def Leaf.key : Leaf → Except Trouble Scalar
  | plain ['<', '<'] => .error .malformed
  | plain cs => ofPlain cs
  | quoted s => .ok (.text s)
  | binary cs =>
    match bytes? cs with
    | some bs => .ok (.bytes bs)
    | none => .error .malformed

def Leaf.value : Leaf → Except Trouble Scalar
  | plain ['='] => .error .malformed
  | l => l.key

mutual

def DocNode.build : DocNode → Except Trouble Tree
  | .leaf l => l.value.map .scalar
  | .list items => (buildAll items).map .list
  | .mapping entries => (buildEntries entries).map .mapping

def buildAll : List DocNode → Except Trouble (List Tree)
  | [] => .ok []
  | n :: nodes => do return (← n.build) :: (← buildAll nodes)

def buildEntries : List (Leaf × DocNode) → Except Trouble (List (Scalar × Tree))
  | [] => .ok []
  | (key, n) :: entries => do return (← key.key, ← n.build) :: (← buildEntries entries)

end

def load (text : String) : Except Trouble Tree :=
  match node? text with
  | some n => n.build
  | none => .error .malformed

def reader : Reader := ⟨Tree, Tree.layer, load⟩

end Reckon.Plain
