import ApiModel.Text.Case
import ApiModel.Text.Words

/-!
# Casing of names

The four casings of a name, each a way to write its words: `PascalCase`, `camelCase`, `snake_case`
and `SCREAMING_SNAKE`.
-/

namespace ApiModel.Text

/-- A word in lower case.  A capital sigma that ends the word takes its final form. -/
def lowerWord : List Char → List Char
  | [] => []
  | [c] => if c = 'Σ' then ['ς'] else lowerForm c
  | c :: next :: rest => lowerForm c ++ lowerWord (next :: rest)

/-- A word in upper case. -/
def upperWord (w : List Char) : List Char :=
  w.flatMap upperForm

/-- A word with its first character in upper case and the rest in lower case. -/
def capitalWord : List Char → List Char
  | [] => []
  | c :: rest => upperForm c ++ lowerWord rest

/-- Words with an underscore between neighbours. -/
def joinWords (ws : List (List Char)) : List Char :=
  ['_'].intercalate ws

/-- The words of a name, each capitalized. -/
def pascal (s : List Char) : List Char :=
  (words s).flatMap capitalWord

/-- The words of a name, the first in lower case and the others capitalized. -/
def camel (s : List Char) : List Char :=
  match words s with
  | [] => []
  | w :: ws => lowerWord w ++ ws.flatMap capitalWord

/-- The words of a name in lower case with underscores between them. -/
def snake (s : List Char) : List Char :=
  joinWords ((words s).map lowerWord)

/-- The words of a name in upper case with underscores between them. -/
def screaming (s : List Char) : List Char :=
  joinWords ((words s).map upperWord)

end ApiModel.Text
