import DottedSchema.Text.Case

set_option autoImplicit false

namespace DottedSchema.Text

/-- The case of the last letter with a case in the word at hand. -/
inductive CaseMode where
  | none
  | lower
  | upper
deriving DecidableEq

def CaseMode.after (mode : CaseMode) (c : Char) : CaseMode :=
  if isLower c then .lower else if isUpper c then .upper else mode

def pieces : List Char → List (List Char)
  | [] => [[]]
  | c :: cs =>
    if isAlphanumeric c then
      match pieces cs with
      | [] => [[c]]
      | piece :: rest => (c :: piece) :: rest
    else [] :: pieces cs

/-- The words of a piece. A word ends before an upper-case letter that follows lower case, and before the last of
several upper-case letters where lower case follows it; `word` is the word so far in reverse. -/
def words (mode : CaseMode) (word : List Char) : List Char → List (List Char)
  | [] => [word.reverse]
  | [c] => [(c :: word).reverse]
  | c :: next :: rest =>
    if mode.after c = .lower ∧ isUpper next then (c :: word).reverse :: words .none [] (next :: rest)
    else if mode = .upper ∧ isUpper c ∧ isLower next then word.reverse :: words .none [c] (next :: rest)
    else words (mode.after c) (c :: word) (next :: rest)

def finalSigma : Char := 'ς'

/-- The rest of a word in lower case; a capital sigma at its end takes the final form. -/
def lowerRest : List Char → List Char
  | [] => []
  | [c] => if c = 'Σ' then [finalSigma] else toLower c
  | c :: rest => toLower c ++ lowerRest rest

def capitalize : List Char → List Char
  | [] => []
  | c :: rest => toUpper c ++ lowerRest rest

def upperCamelCase (name : String) : String :=
  String.ofList (((pieces name.toList).flatMap (words .none [])).flatMap capitalize)

end DottedSchema.Text
