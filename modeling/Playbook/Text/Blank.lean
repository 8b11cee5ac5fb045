/-!
White space: the characters with the property `White_Space`, and the words built on it (trimming
at both ends, blank text).
-/
namespace Playbook.Text

/-- The 25 characters with the property `White_Space`. -/
def isBlank (c : Char) : Bool :=
  let n := c.toNat
  (9 ≤ n && n ≤ 13) || n == 0x20 || n == 0x85 || n == 0xa0 || n == 0x1680 ||
    (0x2000 ≤ n && n ≤ 0x200a) || n == 0x2028 || n == 0x2029 || n == 0x202f || n == 0x205f ||
    n == 0x3000

/-- Removes blanks at both ends. -/
def trimChars (cs : List Char) : List Char :=
  ((cs.dropWhile isBlank).reverse.dropWhile isBlank).reverse

/-- Removes blanks at the end. -/
def trimEnd (s : String) : String :=
  String.ofList (s.toList.reverse.dropWhile isBlank).reverse

def trim (s : String) : String := String.ofList (trimChars s.toList)

/-- Nothing but blanks, or nothing at all. -/
def allBlank (s : String) : Bool := s.toList.all isBlank

/-- Cuts a text at each occurrence of a character. -/
def splitOn (sep : Char) (cs : List Char) : List (List Char) :=
  match cs with
  | [] => [[]]
  | c :: rest =>
    if c = sep then [] :: splitOn sep rest
    else match splitOn sep rest with
      | piece :: pieces => (c :: piece) :: pieces
      | [] => [[c]]

/-- The lines of a text, without the breaks that end them: a line feed, and a carriage return before
it. What follows the last break is a line when there is something. -/
def lines (s : String) : List String :=
  let pieces := splitOn '\n' s.toList
  let ended := pieces.dropLast.map fun piece =>
    if piece.getLast? = some '\r' then piece.dropLast else piece
  let unended := pieces.getLast?.toList.filter fun piece => !piece.isEmpty
  (ended ++ unended).map String.ofList

/-- Whether `needle` occurs somewhere in `hay`. -/
def hasInfix (needle : List Char) : List Char → Bool
  | [] => needle.isEmpty
  | c :: rest => needle.isPrefixOf (c :: rest) || hasInfix needle rest

/-- ASCII letters to upper case; every other character stays. -/
def asciiUpper (s : String) : String := String.ofList (s.toList.map Char.toUpper)

/-- ASCII letters to lower case; every other character stays. -/
def asciiLower (s : String) : String := String.ofList (s.toList.map Char.toLower)

end Playbook.Text
