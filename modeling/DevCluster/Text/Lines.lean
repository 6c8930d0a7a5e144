/-!
The lines of a text. A line ends at a line feed, and a carriage return right before that line feed
belongs to the ending. No line follows the last ending.
-/

namespace DevCluster.Text

def lines : List Char → List (List Char)
  | [] => []
  | '\n' :: rest => [] :: lines rest
  | '\r' :: '\n' :: rest => [] :: lines rest
  | c :: rest =>
    match lines rest with
    | [] => [[c]]
    | line :: others => (c :: line) :: others

end DevCluster.Text
