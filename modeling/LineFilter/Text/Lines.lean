/-!
# Lines

A sequence cut into lines, whether it is made of octets or of characters. A
line feed ends a line, and a carriage return in front of it belongs to the
line's end; what follows the last line feed is a line too, unless it is empty.
-/

namespace LineFilter.Lines

variable {α : Type} [DecidableEq α]

/-- One more item in front of the pieces. -/
def extend (lineFeed item : α) (pieces : List (List α)) : List (List α) :=
  if item = lineFeed then [] :: pieces
  else
    match pieces with
    | [] => [[item]]
    | first :: rest => (item :: first) :: rest

/-- What stands between the line feeds, at least one piece. -/
def pieces (lineFeed : α) (items : List α) : List (List α) := items.foldr (extend lineFeed) [[]]

theorem pieces_cons (lineFeed item : α) (rest : List α) :
    pieces lineFeed (item :: rest) = extend lineFeed item (pieces lineFeed rest) := rfl

theorem pieces_ne_nil (lineFeed : α) (items : List α) : pieces lineFeed items ≠ [] := by
  cases items with
  | nil => simp [pieces]
  | cons item rest =>
    rw [pieces_cons]
    unfold extend
    split
    · simp
    · split <;> simp

/-- A piece without the carriage return at its end. -/
def withoutReturn (carriageReturn : α) (piece : List α) : List α :=
  if piece.getLast? = some carriageReturn then piece.dropLast else piece

/-- The lines without what ends them. -/
def cut (lineFeed carriageReturn : α) (items : List α) : List (List α) :=
  let pieces := pieces lineFeed items
  pieces.dropLast.map (withoutReturn carriageReturn) ++ pieces.getLast?.toList.filter (· ≠ [])

end LineFilter.Lines
