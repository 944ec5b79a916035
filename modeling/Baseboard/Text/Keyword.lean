/-! Keywords that may be written in either case. -/
namespace Baseboard.Text

/-- The lowercase form of a character as far as keywords need it: besides the
letters A to Z only the Kelvin sign has an ASCII letter for its lowercase form,
and every other character stands for itself. -/
def lowercase (c : Char) : Char :=
  if c = '\u212A' then 'k' else c.toLower

/-- Whether `text` is the lowercase keyword `word`, up to case. -/
def isKeyword (word text : String) : Bool :=
  text.toList.map lowercase == word.toList

/-- The value of the first keyword of a table that `text` is. -/
def keywordValue? (table : List (String × α)) (text : String) : Option α :=
  (table.find? fun entry => isKeyword entry.1 text).map (·.2)

end Baseboard.Text
