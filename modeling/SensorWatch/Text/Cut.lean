namespace SensorWatch.Text

-- All characters where there is no separator.
def before (sep : Char) (s : String) : String :=
  String.ofList (s.toList.takeWhile (· != sep))

def aroundLast? (sep : Char) (s : String) : Option (String × String) :=
  if sep ∈ s.toList then
    let back := s.toList.reverse
    some (String.ofList (back.dropWhile (· != sep)).tail.reverse,
      String.ofList (back.takeWhile (· != sep)).reverse)
  else
    none

-- The pieces between separators, in order: one more than there are separators.
def pieces (sep : Char) (s : String) : List String :=
  (go s.toList).map String.ofList
where
  go : List Char → List (List Char)
    | [] => [[]]
    | c :: cs =>
      if c = sep then [] :: go cs
      else match go cs with
        | [] => [[c]]
        | p :: ps => (c :: p) :: ps

def holds (word s : String) : Bool :=
  go s.toList
where
  go : List Char → Bool
    | [] => word.toList.isEmpty
    | c :: cs => word.toList.isPrefixOf (c :: cs) || go cs

def lower (s : String) : String :=
  String.ofList (s.toList.map Char.toLower)

end SensorWatch.Text
