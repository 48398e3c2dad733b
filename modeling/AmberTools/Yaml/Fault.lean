import AmberTools.Text.Quoted
import AmberTools.Value.Calendar

/-!
# Faults of YAML texts

Most faults concern the form of a text: it breaks the grammar, refers to an anchor that it does
not define, or puts a value where it cannot stand. Others concern a single scalar whose text does
not suit its type, or a reader that cannot follow a text any further.
-/

namespace AmberTools
namespace Yaml

/-- Why a text gives no value. -/
inductive Fault where
  /-- The text is no YAML document, or a part of it stands where it cannot. -/
  | malformed
  /-- The numbers of a date or time are none. -/
  | calendar (fault : Calendar.Fault)
  /-- The text of an integer is none in its base. -/
  | notInteger (base : Nat) (text : WideText)
  /-- The text of an integer has more digits than are read. -/
  | tooManyDigits (digits : Nat)
  /-- The text of a number is none. -/
  | notNumber (text : WideText)
  /-- The text of a number is empty. -/
  | emptyNumber
  /-- The text of a truth value is none. -/
  | notBoolean (text : WideText)
  /-- The text of a date or time is none. -/
  | notTimestamp
  /-- An escape names a code point above the last. -/
  | noSuchCharacter
  /-- An escape names a number that is no signed word. -/
  | escapeTooLarge
  /-- A number in base sixty has a digit whose power is above all numbers. -/
  | powerTooLarge
  /-- A mapping stands where a date or time does. -/
  | timestampOfMapping
  /-- Something stands deeper in itself or in others than a reader can follow. -/
  | tooDeep
  /-- A reader has taken all the steps that it was given, and is not done. -/
  | outOfSteps
  /-- A reader fails in a way of its own. -/
  | other (message : String)
  deriving DecidableEq, Repr

/-- The most decimal digits of an integer. -/
def mostDigits : Nat := 4300

/-- The most characters of a quoted text in the wording of a fault about an integer. -/
def mostQuoted : Nat := 200

/-- The wording of a fault that does not concern the form of a text. -/
def Fault.message : Fault → String
  | .malformed => "malformed"
  | .calendar fault => fault.message
  | .notInteger base text =>
    s!"invalid literal for int() with base {base}: " ++
      String.ofList ((Quoted.encodeWide text).take mostQuoted)
  | .tooManyDigits digits =>
    "Exceeds the limit (4300 digits) for integer string conversion: " ++
      s!"value has {digits} digits; use sys.set_int_max_str_digits() to increase the limit"
  | .notNumber text =>
    s!"could not convert string to float: {String.ofList (Quoted.encodeWide text)}"
  | .emptyNumber => "string index out of range"
  | .notBoolean text => String.ofList (Quoted.encodeWide text)
  | .notTimestamp => "'NoneType' object has no attribute 'groupdict'"
  | .noSuchCharacter => "chr() arg not in range(0x110000)"
  | .escapeTooLarge => "Python int too large to convert to C int"
  | .powerTooLarge => "int too large to convert to float"
  | .timestampOfMapping => "expected string or bytes-like object, got 'list'"
  | .tooDeep => "maximum recursion depth exceeded"
  | .outOfSteps => "out of steps"
  | .other message => message

end Yaml
end AmberTools
