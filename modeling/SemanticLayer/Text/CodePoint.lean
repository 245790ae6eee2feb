/-!
# Ranges of code points

A character property beyond ASCII is a list of closed ranges of code points.
-/

namespace SemanticLayer.Text

/-- Whether `n` lies in one of the closed ranges. -/
def inRanges (rs : List (Nat × Nat)) (n : Nat) : Bool :=
  rs.any fun r => r.1 ≤ n && n ≤ r.2

/-- Membership in a list of ranges is membership in one of them. -/
theorem inRanges_iff {rs : List (Nat × Nat)} {n : Nat} :
    inRanges rs n = true ↔ ∃ r ∈ rs, r.1 ≤ n ∧ n ≤ r.2 := by
  simp [inRanges]

end SemanticLayer.Text
