/-!
Texts divided at single characters.
-/

namespace ObjectGrants.Text

/-- The pieces of a text between the characters that satisfy a test. There is always one more
piece than there are such characters, so pieces may be empty. -/
def pieces (divides : Char → Bool) : List Char → List (List Char)
  | [] => [[]]
  | c :: rest =>
      if divides c then [] :: pieces divides rest
      else match pieces divides rest with
        | piece :: others => (c :: piece) :: others
        | [] => [[c]]

end ObjectGrants.Text
