/-! Case-insensitive keywords. -/
namespace BloodStakes

/-- A character in lower case. Besides `A`–`Z` only the Kelvin sign has a lower-case
form in ASCII, so no other character can take part in an ASCII keyword. -/
def Keyword.foldChar (c : Char) : Char :=
  if c = '\u212a' then 'k' else c.toLower

/-- Two spellings name one ASCII keyword exactly if they fold to it. -/
def Keyword.fold (word : String) : String :=
  word.map Keyword.foldChar

end BloodStakes
