import GatewaySync.Json.Text

/-!
# JSON values as YAML

The block form: one member or item a line, and what is inside another value further to the right.
The items of a list stand below its name without going to the right.  Texts stand bare where a
reader takes them for texts, and texts of several lines stand line by line.
-/

namespace GatewaySync.Json.Block

/-- Words that a reader takes for something else than a text. -/
def reservedWords : List String := [
  "null", "Null", "NULL", "~", "true", "True", "TRUE", "false", "False", "FALSE",
  "y", "Y", "yes", "Yes", "YES", "n", "N", "no", "No", "NO",
  "on", "On", "ON", "off", "Off", "OFF"]

/-- Characters that mean something at the start of a value. -/
def indicators : List Char := [
  '#', ',', '[', ']', '\x7b', '\x7d', '&', '*', '!', '|', '>', '\'', '"', '%', '@', '\x60']

/-- Whether a text starts as a number does. -/
def startsAsNumber : List Char → Bool
  | '-' :: c :: _ | '+' :: c :: _ | '.' :: c :: _ => c.isDigit || c == '.'
  | c :: _ => c.isDigit
  | [] => false

/-- Whether nothing inside a text means something: no colon before a blank or the end, no number
sign behind a blank, and no blank at the end. -/
def isCalm : List Char → Bool
  | [] => true
  | [c] => c ≠ ':' && c ≠ ' '
  | c :: d :: rest =>
    !(c == ':' && d == ' ') && !(c == ' ' && d == '#') && 0x20 ≤ c.toNat && c ≠ '\x7f' &&
      isCalm (d :: rest)

/-- Whether the first character leaves a text a text. -/
def startsPlain : List Char → Bool
  | [] => false
  | ['-'] | ['?'] => false
  | '-' :: ' ' :: _ | '?' :: ' ' :: _ | ' ' :: _ => false
  | '-' :: '-' :: '-' :: _ | '.' :: '.' :: '.' :: _ => false
  | c :: _ => c ∉ indicators

def isPlain (s : String) : Bool :=
  let cs := s.toList
  startsPlain cs && !startsAsNumber cs && isCalm cs && s ∉ reservedWords

/-- A text in one line. -/
def textLine (s : String) : String :=
  if isPlain s then s
  else
    "'" ++ String.ofList (s.toList.flatMap fun c => if c = '\'' then ['\'', '\''] else [c]) ++ "'"

/-- A value that needs no lines of its own. -/
def inline? : Json → Option String
  | .str s => if '\n' ∈ s.toList then none else some (textLine s)
  | .arr (_ :: _) => none
  | .obj (_ :: _) => none
  | j => some j.text

/-- A line further to the right. -/
def shift (line : String) : String := if line.isEmpty then line else "  " ++ line

/-- The lines of a text of several lines, under the mark that says how it ends. -/
def textLines (s : String) : List String :=
  let lines := s.splitOn "\n"
  let ending := (lines.reverse.takeWhile String.isEmpty).length
  if ending = 0 then "|-" :: lines.map shift
  else if ending = 1 then "|" :: (lines.take (lines.length - 1)).map shift
  else "|+" :: (lines.take (lines.length - 1)).map shift

/-- Puts the first of some lines behind a mark. -/
def behind (mark : String) : List String → List String
  | [] => [mark]
  | first :: rest => (mark ++ first) :: rest

mutual

/-- The lines of a value. -/
def lines : Json → List String
  | .arr (j :: rest) => itemLines (j :: rest)
  | .obj (m :: rest) => memberLines (m :: rest)
  | .str s => if '\n' ∈ s.toList then textLines s else [textLine s]
  | j => [j.text]

def itemLines : List Json → List String
  | [] => []
  | j :: rest =>
    (match lines j with
      | [] => ["-"]
      | first :: more => ("- " ++ first) :: more.map shift) ++ itemLines rest

def memberLines : List (String × Json) → List String
  | [] => []
  | (name, j) :: rest =>
    let head := textLine name ++ ":"
    (match j with
      | .arr (_ :: _) => head :: lines j
      | .obj (_ :: _) => head :: (lines j).map shift
      | _ => behind (head ++ " ") (lines j)) ++ memberLines rest

end

end GatewaySync.Json.Block

/-- The block form of a value. -/
def GatewaySync.Json.blockText (j : GatewaySync.Json) : String :=
  String.join ((GatewaySync.Json.Block.lines j).map fun line => line ++ "\n")
