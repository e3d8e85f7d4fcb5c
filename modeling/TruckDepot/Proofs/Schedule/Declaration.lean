import TruckDepot.Schedule.Declaration

/-!
# Declarations that a grid keeps

A grid keeps the tokens that it was read from, so a grid that was made ready for a fleet is read
again from its own tokens (`Grid.configure_tokens`), the default grid included.
-/

namespace TruckDepot.Grid

/-- `ofTokens` keeps its tokens as they are. -/
@[simp] theorem tokens_ofTokens (tokens : List String) : (ofTokens tokens).1.tokens = tokens :=
  rfl

theorem isEmpty_default : Grid.default.isEmpty = false := by
  decide +kernel

theorem configure_of_isEmpty {tokens : List String} (h : (ofTokens tokens).1.isEmpty = true) :
    (configure tokens).grid = default := by
  unfold configure
  dsimp only
  rw [h]
  rfl

theorem configure_of_not_isEmpty {tokens : List String}
    (h : (ofTokens tokens).1.isEmpty = false) :
    (configure tokens).grid = (ofTokens tokens).1 := by
  unfold configure
  dsimp only
  rw [h]
  rfl

/-- `configure` makes the same grid again from the `tokens` that the grid keeps. -/
theorem configure_tokens (tokens : List String) :
    (configure (configure tokens).grid.tokens).grid = (configure tokens).grid := by
  cases h : (ofTokens tokens).1.isEmpty with
  | true =>
    rw [configure_of_isEmpty h]
    exact configure_of_not_isEmpty isEmpty_default
  | false => rw [configure_of_not_isEmpty h, tokens_ofTokens, configure_of_not_isEmpty h]

end TruckDepot.Grid
