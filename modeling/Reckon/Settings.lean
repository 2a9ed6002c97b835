import Reckon.Text.Quoted

/-! How deep groups may nest, and whether formulas are checked before anything is bound in them. -/
namespace Reckon

structure Settings where
  maxDepth : Nat
  validates : Bool
  one_le_maxDepth : 1 ≤ maxDepth

namespace Settings

def defaultDepth : Nat := 256

def limit (s : Settings) : Int := s.maxDepth

theorem one_le_limit (s : Settings) : 1 ≤ s.limit := by
  have := s.one_le_maxDepth
  unfold limit
  omega

end Settings

inductive SettingsFault where
  | depthBelowOne (depth : Int)
  | badVariable (text : String)
  | badDocument (path : String)
  | noMapping (path : String)
  | noMappingInSection (path : String)
  | unknownKeys (path : String) (keys : List String)
  | depthNotWhole (path : String)

/-- Documents are named by the path they were asked for under. -/
def SettingsFault.message : SettingsFault → String
  | depthBelowOne depth => s!"max_depth must be at least 1, got {depth}"
  | badVariable text => "Invalid EQUATION_SOLVER_MAX_DEPTH: " ++ Text.quoted text
  | badDocument path => "Invalid YAML in " ++ path
  | noMapping path => "Expected a mapping in " ++ path
  | noMappingInSection path => "Expected a mapping under 'solver' in " ++ path
  | unknownKeys path keys =>
    "Unknown config keys in " ++ path ++ ": " ++ ", ".intercalate keys
  | depthNotWhole path => "max_depth must be an integer in " ++ path

namespace Settings

def make (depth : Int) (validates : Bool) : Except SettingsFault Settings :=
  if h : 1 ≤ depth then .ok ⟨depth.toNat, validates, by omega⟩
  else .error (.depthBelowOne depth)

def standard : Settings := ⟨defaultDepth, false, by decide⟩

end Settings
end Reckon
