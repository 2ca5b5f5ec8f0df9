/-!
# Columns of text

Log lines align their parts in columns.
-/

namespace Chip8.Text

/-- A text of at least `width` characters, filled with blanks on the left. -/
def rightAligned (width : Nat) (text : String) : String :=
  .ofList (List.replicate (width - text.length) ' ' ++ text.toList)

end Chip8.Text
