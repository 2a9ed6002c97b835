/-! Documents as a reader hands them over. What its values are is up to the reader, and one layer of
each can be looked at; so a value may even hold itself. -/
namespace Reckon.Yaml

structure Date where
  year : Nat
  month : Nat
  day : Nat
  deriving DecidableEq

/-- A date with a time, in microseconds from midnight, and the minutes that it is ahead of universal
time, where that is told. -/
structure Moment where
  date : Date
  time : Nat
  ahead? : Option Int
  deriving DecidableEq

inductive Scalar where
  | null
  | bool (b : Bool)
  | int (i : Int)
  | float (x : Float)
  | text (s : String)
  | bytes (bs : List UInt8)
  | date (d : Date)
  | moment (m : Moment)
  deriving DecidableEq

namespace Scalar

def text? : Scalar → Option String
  | text s => some s
  | _ => none

theorem text?_eq_some_iff {k : Scalar} {name : String} : k.text? = some name ↔ k = .text name := by
  cases k <;> simp [text?]

def truth : Scalar → Bool
  | null => false
  | bool b => b
  | int i => i != 0
  | float x => x != 0
  | text s => s != ""
  | bytes bs => !bs.isEmpty
  | date _ | moment _ => true

end Scalar

section
variable {α : Type} {entries : List (Scalar × α)} {key : Scalar} {name : String} {w : α}

def names (entries : List (Scalar × α)) : List String := entries.filterMap (·.1.text?)

theorem names_cons_text : names ((.text name, w) :: entries) = name :: names entries := rfl

theorem mem_names : name ∈ names entries ↔ ∃ w, (.text name, w) ∈ entries := by
  simp [names, List.mem_filterMap, Scalar.text?_eq_some_iff]

end

/-- Entries in their order. Two of them may not have the same text for a key. -/
@[ext] structure Mapping (α : Type) where
  entries : List (Scalar × α)
  nodup_names : (names entries).Nodup

namespace Mapping
variable {α : Type} {m : Mapping α} {name : String} {w : α}

def empty : Mapping α := ⟨[], .nil⟩

def lookup? (m : Mapping α) (name : String) : Option α :=
  (m.entries.find? (·.1 = .text name)).map Prod.snd

theorem lookup?_eq_none_iff :
    m.lookup? name = none ↔ ∀ w, (.text name, w) ∉ m.entries := by
  simp only [lookup?, Option.map_eq_none_iff, List.find?_eq_none, decide_eq_true_eq]
  constructor
  · intro h w hw
    exact h _ hw rfl
  · rintro h ⟨k, w⟩ hw rfl
    exact h w hw

theorem mem_of_lookup? (h : m.lookup? name = some w) : (.text name, w) ∈ m.entries := by
  obtain ⟨⟨k, w⟩, hfind, rfl⟩ := Option.map_eq_some_iff.1 h
  obtain rfl : k = .text name := by simpa using List.find?_some hfind
  exact List.mem_of_find?_eq_some hfind

theorem lookup?_eq_some_iff : m.lookup? name = some w ↔ (.text name, w) ∈ m.entries := by
  refine ⟨mem_of_lookup?, fun hw => ?_⟩
  obtain ⟨entries, hnames⟩ := m
  induction entries with
  | nil => cases hw
  | cons e entries ih =>
    obtain ⟨key, v⟩ := e
    have hrest := hnames.sublist ((List.sublist_cons_self (key, v) entries).filterMap _)
    by_cases hkey : key = .text name
    · subst hkey
      have hname : name ∉ names entries := (List.nodup_cons.1 (names_cons_text ▸ hnames)).1
      obtain heq | hw := List.mem_cons.1 hw
      · cases heq
        simp [lookup?]
      · exact absurd (mem_names.2 ⟨w, hw⟩) hname
    · have hw := (List.mem_cons.1 hw).resolve_left fun heq => hkey (congrArg Prod.fst heq).symm
      simpa [lookup?, hkey] using ih hrest hw

end Mapping

/-- A value, with the values inside of it as they are. -/
inductive Layer (α : Type) where
  | scalar (s : Scalar)
  | list (items : List α)
  | pair (first second : α)
  | set (members : List Scalar)
  | mapping (m : Mapping α)

namespace Layer
variable {α : Type}

def truth : Layer α → Bool
  | scalar s => s.truth
  | list items => !items.isEmpty
  | pair _ _ => true
  | set members => !members.isEmpty
  | mapping m => !m.entries.isEmpty

def orEmpty (l : Layer α) : Layer α := if l.truth then l else .mapping .empty

end Layer

/-- Why there is no value: the text is no document, or an exception of another kind is raised. -/
inductive Trouble where
  | malformed
  | raised

structure Reader where
  Value : Type
  layer : Value → Layer Value
  load : String → Except Trouble Value

def Reader.Maps (R : Reader) (v : R.Value) (m : Mapping R.Value) : Prop :=
  R.layer v = .mapping m ∨ (R.layer v).truth = false ∧ m = .empty

variable {R : Reader} {v : R.Value} {m : Mapping R.Value}

theorem Layer.orEmpty_eq_mapping_iff : (R.layer v).orEmpty = .mapping m ↔ R.Maps v m := by
  unfold Layer.orEmpty Reader.Maps
  cases htruth : (R.layer v).truth with
  | true => simp
  | false =>
    simp only [Bool.false_eq_true, if_false, Layer.mapping.injEq, true_and]
    constructor
    · rintro rfl
      exact .inr rfl
    · rintro (hlayer | rfl)
      · rw [hlayer, Layer.truth, Bool.not_eq_false', List.isEmpty_iff] at htruth
        exact Mapping.ext htruth.symm
      · rfl

end Reckon.Yaml

namespace Reckon

/-- An exception that nothing catches. It ends the program. -/
inductive Crash where
  | unlistableKeys (keys : List Yaml.Scalar)
  | unwritableDepth (depth : Int)
  | unreadable (path : String)
  | noFile (path : String)

inductive Failure (φ : Type) where
  | fault (f : φ)
  | crash (c : Crash)

end Reckon
