namespace LivePreview.Text

/-- The code point lies in one of the ranges. -/
def inRanges (ranges : List (Nat × Nat)) (code : Nat) : Bool :=
  ranges.any fun range => range.1 ≤ code && code ≤ range.2

@[simp] theorem inRanges_nil (code : Nat) : inRanges [] code = false := rfl

@[simp] theorem inRanges_cons (range : Nat × Nat) (ranges : List (Nat × Nat)) (code : Nat) :
    inRanges (range :: ranges) code =
      ((range.1 ≤ code && code ≤ range.2) || inRanges ranges code) := rfl

end LivePreview.Text
