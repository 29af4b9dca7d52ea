import StepFlow.Calendar.Text
import StepFlow.Text.Code
/-!
# Faults of documents

Why a document in YAML cannot be read. Most documents that fail do not follow the notation; the
others follow it and name something that does not exist.
-/

namespace StepFlow.Yaml

/-- Why a document cannot be read. -/
inductive Fault where
  /-- The document does not follow the notation. -/
  | malformed
  /-- A code is that of no character. -/
  | noCharacter
  /-- A code is that of no character and too large to be looked up. -/
  | codeTooLarge
  /-- A word marked as a truth value is none. -/
  | noTruth
  /-- A text marked as a number has no digits at all. -/
  | emptyNumber
  /-- A text marked as an integer writes none in the given base. -/
  | notInteger (base : Nat) (text : List Text.Code)
  /-- A text marked as a double writes none. -/
  | notNumber (text : List Text.Code)
  /-- An integer has more digits than are read. -/
  | overlong (digits : Nat)
  /-- A number in base 60 has more places than a double can weigh. -/
  | tooManyPlaces
  /-- A text marked as a moment is not written like one. -/
  | notMoment
  /-- A record is marked as a moment. -/
  | momentInRecord
  /-- A record is its own default value. -/
  | endless
  /-- Lists and records are nested too deeply. -/
  | tooDeep
  /-- A moment's numbers name no moment. -/
  | calendar (fault : Calendar.Fault)

/-- The number of characters to which a quoted text is cut in the wording for integers. -/
def quotedLimit : Nat := 200

/-- The fault's wording, if it has one. -/
def Fault.message? : Fault → Option String
  | .noCharacter => some "chr() arg not in range(0x110000)"
  | .notInteger base text =>
    some ("invalid literal for int() with base " ++ toString base ++ ": " ++
      String.ofList ((Text.Code.quoted text).take quotedLimit))
  | .notNumber text =>
    some ("could not convert string to float: " ++ String.ofList (Text.Code.quoted text))
  | .overlong digits =>
    some ("Exceeds the limit (4300 digits) for integer string conversion: value has " ++
      toString digits ++ " digits; use sys.set_int_max_str_digits() to increase the limit")
  | .calendar fault => some fault.message
  | _ => none

end StepFlow.Yaml
