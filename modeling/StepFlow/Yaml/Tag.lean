import StepFlow.Text.Find
import StepFlow.Yaml.Moment
/-!
# Tags

The kinds of things that a document's parts stand for, and the kind that a plain word stands for by
its look: a truth value, a number, a moment, the absent value or, for want of anything else, a
text.
-/

namespace StepFlow.Yaml

open Text

/-- What a part of a document stands for. -/
inductive Tag where
  /-- The absent value. -/
  | null
  /-- A truth value. -/
  | bool
  /-- An integer. -/
  | int
  /-- A double. -/
  | real
  /-- A string of bytes. -/
  | bytes
  /-- A date or a moment. -/
  | moment
  /-- A text. -/
  | text
  /-- A list. -/
  | list
  /-- A list of pairs, given as records of one entry. -/
  | pairs
  /-- A set, given as the keys of a record. -/
  | set
  /-- A record. -/
  | record
  /-- The key under which a record takes over the entries of others. -/
  | merge
  /-- The key under which a record holds the value it stands for. -/
  | default
  /-- Anything else. -/
  | other
deriving DecidableEq, Inhabited

namespace Tag

/-- What the names of the known tags begin with. -/
def authority : String := "tag:yaml.org,2002:"

/-- The known tags by what follows the authority in their names. -/
def known : List (String × Tag) := [
  ("null", null), ("bool", bool), ("int", int), ("float", real), ("binary", bytes),
  ("timestamp", moment), ("str", text), ("seq", list), ("omap", pairs), ("pairs", pairs),
  ("set", set), ("map", record), ("merge", merge), ("value", default)]

/-- The tag of a full name. -/
def ofName (name : String) : Tag :=
  match after? authority.toList name.toList with
  | some suffix => (known.lookup (String.ofList suffix)).getD other
  | none => other

/-! ## The look of plain words -/

/-- The words for truth values. -/
def truthWords : List String := [
  "yes", "Yes", "YES", "no", "No", "NO", "true", "True", "TRUE", "false", "False", "FALSE",
  "on", "On", "ON", "off", "Off", "OFF"]

/-- The words for the absent value; the empty word is another. -/
def nullWords : List String := ["~", "null", "Null", "NULL"]

/-- Decimal digits and underscores. -/
def isDigitOr_ (c : Char) : Bool :=
  isAsciiDigit c || c == '_'

/-- A word without its sign. -/
def dropSign : List Char → List Char
  | '-' :: cs => cs
  | '+' :: cs => cs
  | cs => cs

/-- Whether a word is a digit that satisfies `p` and then digits and underscores. -/
def isNumeral (p : Char → Bool) : List Char → Bool
  | c :: cs => isAsciiDigit c && p c && cs.all isDigitOr_
  | [] => false

/-- Whether a word is one digit or two that write a number below sixty. -/
def isSixtieth : List Char → Bool
  | [c] => isAsciiDigit c
  | [c, d] => '0' ≤ c && c ≤ '5' && isAsciiDigit d
  | _ => false

/-- Whether a word without a sign looks like an integer in base 10. -/
def isDecimal (cs : List Char) : Bool :=
  cs == ['0'] || isNumeral (· != '0') cs

/-- Whether a word without a sign looks like an integer in base 60. -/
def isSexagesimal (cs : List Char) : Bool :=
  match splitOn ':' cs with
  | first :: second :: rest => isNumeral (· != '0') first && (second :: rest).all isSixtieth
  | _ => false

/-- Whether a word without a sign looks like an integer in base 2, 8 or 16. -/
def isRadix : List Char → Bool
  | '0' :: 'b' :: c :: cs => (c :: cs).all fun c => c == '0' || c == '1' || c == '_'
  | '0' :: 'x' :: c :: cs =>
    (c :: cs).all fun c => isDigitOr_ c || ('a' ≤ c && c ≤ 'f') || ('A' ≤ c && c ≤ 'F')
  | '0' :: c :: cs => (c :: cs).all fun c => ('0' ≤ c && c ≤ '7') || c == '_'
  | _ => false

/-- Whether a word looks like an integer. -/
def isInt (cs : List Char) : Bool :=
  let bare := dropSign cs
  isDecimal bare || isRadix bare || isSexagesimal bare

/-- Whether a word is empty or an exponent with its sign. -/
def isExponent : List Char → Bool
  | [] => true
  | e :: sign :: c :: cs =>
    (e == 'e' || e == 'E') && (sign == '-' || sign == '+') && (c :: cs).all isAsciiDigit
  | _ => false

/-- Whether a word without a sign is a number with a point and perhaps an exponent. -/
def isPointed (cs : List Char) : Bool :=
  match splitAt? ['.'] cs with
  | some (whole, rest) =>
    isNumeral (fun _ => true) whole && isExponent (rest.dropWhile isDigitOr_)
  | none => false

/-- Whether a word without a sign is a number in base 60 with a point. -/
def isPointedSexagesimal (cs : List Char) : Bool :=
  match splitAt? ['.'] cs with
  | some (whole, rest) =>
    rest.all isDigitOr_ &&
      match splitOn ':' whole with
      | first :: second :: more =>
        isNumeral (fun _ => true) first && (second :: more).all isSixtieth
      | _ => false
  | none => false

/-- Whether a word is a number that begins with the point; it takes no sign. -/
def isFraction : List Char → Bool
  | '.' :: c :: cs => isAsciiDigit c && isExponent (cs.dropWhile isDigitOr_)
  | _ => false

/-- Whether a word looks like a double. -/
def isReal (cs : List Char) : Bool :=
  let bare := dropSign cs
  isPointed bare || isFraction cs || isPointedSexagesimal bare ||
    [".inf", ".Inf", ".INF"].contains (String.ofList bare) ||
    [".nan", ".NaN", ".NAN"].contains (String.ofList cs)

/-- A word without a line feed at its end. -/
def dropLineFeed (cs : List Char) : List Char :=
  if cs.getLast? = some '\n' then cs.dropLast else cs

/-- What a plain word stands for by its look. -/
def ofPlain (word : List Char) : Tag :=
  let cs := dropLineFeed word
  let s := String.ofList cs
  if truthWords.contains s then bool
  else if isReal cs then real
  else if isInt cs then int
  else if s = "<<" then merge
  else if word.isEmpty ∨ nullWords.contains s then null
  else if looksLikeMoment cs then moment
  else if s = "=" then default
  else text

end Tag
end StepFlow.Yaml
