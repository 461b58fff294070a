import BoundSql.Text.CodeRanges
import BoundSql.Text.CaseMap
import BoundSql.Text.CasedRanges

/-!
# Upper case and capitalized texts

A character may become several in upper or title case. A capitalized text has
its first character in title case and all others in lower case, where a capital
sigma at the end of a word becomes the final small sigma.
-/

namespace BoundSql.Text

/-- The image of a code point under the first run that holds it. -/
def runImage? (runs : List CaseRun) (n : Nat) : Option Nat :=
  runs.findSome? fun run => run.image? n

/-- The characters that a character is mapped to: its entry among the longer
images, else its image under a run, else itself. -/
def mappedChar (expansions : List (Nat × List Nat)) (runs : List CaseRun) (c : Char) :
    List Char :=
  match expansions.lookup c.toNat with
  | some image => image.map Char.ofNat
  | none =>
    match runImage? runs c.toNat with
    | some n => [Char.ofNat n]
    | none => [c]

/-- A character in upper case. -/
def upperChar (c : Char) : List Char :=
  mappedChar upperExpansions upperRuns c

/-- A character in lower case, whatever stands beside it. -/
def lowerChar (c : Char) : List Char :=
  mappedChar lowerExpansions lowerRuns c

/-- A character in title case. -/
def titleChar (c : Char) : List Char :=
  match titleExceptions.lookup c.toNat with
  | some image => image.map Char.ofNat
  | none => upperChar c

/-- A text in upper case. -/
def upper (text : List Char) : List Char :=
  text.flatMap upperChar

/-- Whether the first character that case rules do not look past is cased. -/
def facesCased (neighbours : List Char) : Bool :=
  match neighbours.dropWhile fun c => inRanges caseIgnorableRanges c.toNat with
  | [] => false
  | c :: _ => inRanges casedRanges c.toNat

/-- The lower case of a text, given the characters before it from the nearest on. -/
def loweredAfter (before : List Char) : List Char → List Char
  | [] => []
  | c :: rest =>
    (if c = 'Σ' then
      if facesCased before && !facesCased rest then ['ς'] else ['σ']
    else lowerChar c) ++ loweredAfter (c :: before) rest

/-- The first character in title case and the others in lower case. -/
def capitalized : List Char → List Char
  | [] => []
  | c :: rest => titleChar c ++ loweredAfter [c] rest

@[simp] theorem upper_nil : upper [] = [] := rfl

/-- Upper case is taken character by character. -/
@[simp] theorem upper_append (s t : List Char) : upper (s ++ t) = upper s ++ upper t :=
  List.flatMap_append

end BoundSql.Text
