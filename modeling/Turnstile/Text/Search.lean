/-! Finding one text inside another. -/
namespace Turnstile.Text

def isInfix (part : List Char) : List Char → Bool
  | [] => part.isEmpty
  | c :: rest => part.isPrefixOf (c :: rest) || isInfix part rest

def pieces (delimiter : List Char) (piece : List Char) (s : List Char) : List (List Char) :=
  match s with
  | [] => [piece.reverse]
  | c :: rest =>
    if !delimiter.isEmpty && delimiter.isPrefixOf (c :: rest) then
      piece.reverse :: pieces delimiter [] (rest.drop (delimiter.length - 1))
    else pieces delimiter (c :: piece) rest
termination_by s.length
decreasing_by all_goals simp [List.length_drop]; try omega

def split (delimiter s : String) : List String :=
  if delimiter.isEmpty then "" :: (s.toList.map fun c => String.ofList [c]) ++ [""]
  else (pieces delimiter.toList [] s.toList).map String.ofList

def contains (s part : String) : Bool := isInfix part.toList s.toList
def startsWith (s part : String) : Bool := part.toList.isPrefixOf s.toList
def endsWith (s part : String) : Bool := part.toList.reverse.isPrefixOf s.toList.reverse

def stripStart? (start s : List Char) : Option (List Char) :=
  if start.isPrefixOf s then some (s.drop start.length) else none

def dropEnd (c : Char) (s : String) : String :=
  String.ofList ((s.toList.reverse.dropWhile (· = c)).reverse)

end Turnstile.Text
