import SampleModels.Text.Case
import SampleModels.Text.Letter

/-!
# Camel case

A text is cut into words at every character that cannot stand in a word, and inside what is left
where a lower case letter meets an upper case one (`fooBar`) and before the last letter of a run of
upper case that a lower case one follows (`HTTPServer`). Each word then starts with an upper case
letter and goes on in lower case.
-/

namespace SampleModels.Text

/-- The case of the last cased letter of the word so far. -/
inductive Trend where
  | uncased
  | lower
  | upper
deriving DecidableEq

def Trend.after (trend : Trend) (c : Char) : Trend :=
  if isLowercase c then .lower else if isUppercase c then .upper else trend

/-- Cuts a run of word characters into words; `word` holds the current one backwards. -/
def wordsFrom (trend : Trend) (word : List Char) : List Char → List (List Char)
  | [] => []
  | [c] => [(c :: word).reverse]
  | c :: next :: rest =>
    if trend.after c = .lower && isUppercase next then
      (c :: word).reverse :: wordsFrom .uncased [] (next :: rest)
    else if trend = .upper && isUppercase c && isLowercase next then
      word.reverse :: wordsFrom .uncased [c] (next :: rest)
    else
      wordsFrom (trend.after c) (c :: word) (next :: rest)

def words (cs : List Char) : List (List Char) :=
  (cs.splitOnP fun c => !isAlphanumeric c).flatMap (wordsFrom .uncased [])

/-- The rest of a word in lower case; a sigma at the end of the word takes its final form. -/
def lowerTail : List Char → List Char
  | [] => []
  | ['Σ'] => ['ς']
  | c :: rest => lowercase c ++ lowerTail rest

/-- A word with its first letter in upper case and the others in lower case. -/
def capitalize : List Char → List Char
  | [] => []
  | c :: rest => uppercase c ++ lowerTail rest

def upperCamelCase (text : String) : String :=
  String.ofList ((words text.toList).flatMap capitalize)

end SampleModels.Text
