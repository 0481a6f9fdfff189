import ApiModel.Text.Class

/-!
# Words of a name

A name is cut into words at every character that is neither letter nor number and, inside a run of
letters and numbers, at the humps: after a lower case letter (or the numbers that follow one) when a
capital comes next, and before a capital that is followed by a lower case letter when the last cased
letter of the word is a capital too, so that `HTTPServer2Go` has the words `HTTP`, `Server2`, `Go`.
-/

namespace ApiModel.Text

/-- The pieces of a text between the characters that satisfy `cut`; neighbouring cuts leave empty
pieces. -/
def split (cut : Char → Bool) : List Char → List (List Char)
  | [] => [[]]
  | c :: rest =>
    if cut c then [] :: split cut rest
    else
      match split cut rest with
      | [] => [[c]]
      | piece :: pieces => (c :: piece) :: pieces

/-- The maximal runs of letters and numbers. -/
def runs (s : List Char) : List (List Char) :=
  (split (fun c => !isAlphanumeric c) s).filter (!·.isEmpty)

/-- The case of the last cased letter of the word that is being read. -/
inductive Hump where
  /-- The word has no cased letter yet. -/
  | flat
  /-- The last cased letter is small. -/
  | low
  /-- The last cased letter is a capital. -/
  | high
  deriving DecidableEq, Repr

/-- The hump after one more character. -/
def Hump.step (h : Hump) (c : Char) : Hump :=
  if isLower c then .low else if isUpper c then .high else h

/-- Cuts a run at its humps; `word` holds the word that is being read, last character first. -/
def cutHumps (hump : Hump) (word : List Char) : List Char → List (List Char)
  | [] => []
  | [c] => [(c :: word).reverse]
  | c :: next :: rest =>
    if hump.step c = .low ∧ isUpper next then
      (c :: word).reverse :: cutHumps .flat [] (next :: rest)
    else if hump = .high ∧ isUpper c ∧ isLower next then
      word.reverse :: cutHumps .flat [c] (next :: rest)
    else
      cutHumps (hump.step c) (c :: word) (next :: rest)

/-- The words of a name. -/
def words (s : List Char) : List (List Char) :=
  (runs s).flatMap (cutHumps .flat [])

end ApiModel.Text
