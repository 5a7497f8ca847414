import GridWalk.Text.Joining
import GridWalk.Text.Unprinted
/-! Characters that leave no mark of their own on a line. -/
namespace GridWalk.Text

def fillers : CharRanges where
  ranges := [(0x115f, 0x1160), (0x3164, 0x3164), (0xffa0, 0xffa0)]

def Invisible (c : Char) : Prop := c ∈ unprinted ∨ c ∈ joining ∨ c ∈ fillers

instance (c : Char) : Decidable (Invisible c) :=
  inferInstanceAs (Decidable (c ∈ unprinted ∨ c ∈ joining ∨ c ∈ fillers))

/-- Of the blank characters of a plain text, the space alone is visible. -/
theorem invisible_of_isWhitespace {c : Char} (h : c.isWhitespace = true) (hs : c ≠ ' ') :
    Invisible c := by
  simp only [Char.isWhitespace, Bool.or_eq_true, decide_eq_true_eq] at h
  rcases h with ((h | h) | h) | h
  · exact absurd h hs
  all_goals subst h; decide +kernel

end GridWalk.Text
