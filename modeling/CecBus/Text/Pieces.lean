/-! Text cut at every occurrence of a mark, and put together again. -/

namespace CecBus.Text

/-- The pieces of a text between the marks; there is always at least one. -/
def pieces (mark : Char) : List Char → List (List Char)
  | [] => [[]]
  | c :: rest =>
    if c = mark then [] :: pieces mark rest
    else
      match pieces mark rest with
      | [] => [[c]]
      | piece :: others => (c :: piece) :: others

/-- Pieces with the mark between them. -/
def joinPieces (mark : Char) : List (List Char) → List Char
  | [] => []
  | [piece] => piece
  | piece :: rest => piece ++ mark :: joinPieces mark rest

end CecBus.Text
