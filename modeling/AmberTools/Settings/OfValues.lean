import AmberTools.Settings.Basic
import AmberTools.Value.Written

/-!
# Settings from values

Settings are built from a mapping of names to values, or by overriding some of the settings one
has. Unknown names are refused before any value is looked at; after that the fields are checked
in a fixed order, so the outcome does not depend on the order of the mapping.
-/

namespace AmberTools
namespace Settings

/-- Why values are no settings. -/
inductive Fault where
  | unknownKeys (keys : List WideText)
  | unitNotInteger (given : Value)
  | unitNotPositive (given : Int)
  | stripNotBoolean (given : Value)
  | executableBlank
  | unlocatedUnknown (given : Value)
  /-- A value that would have to be shown cannot be written. -/
  | unwritable (reason : Value.Unwritable)

/-- The wording of a fault. -/
def Fault.message : Fault → WideText
  | .unknownKeys keys =>
    WideText.ofString "Unknown configuration keys: " ++
      WideText.joinWith (WideText.ofString ", ") keys
  | .unitNotInteger v => WideText.ofString "indent_unit must be an integer, got " ++ v.written.wide
  | .unitNotPositive n =>
    WideText.ofString "indent_unit must be positive, got " ++ (Text.ofInt n).wide
  | .stripNotBoolean v => WideText.ofString "strip_ansi must be a boolean, got " ++ v.written.wide
  | .executableBlank => WideText.ofString "executable must be a non-empty string"
  | .unlocatedUnknown v =>
    WideText.ofString "unlocated must be one of drop, keep, got " ++ v.written.wide
  | .unwritable reason => .ofString reason.message

/-- A fault about a value, which is shown. -/
def Fault.about [Value.Writing] (fault : Value → Fault) (given : Value) : Fault :=
  (Value.Writing.refusal? given).elim (fault given) .unwritable

/-- The settings that have a name. -/
inductive Field where
  | indentUnit
  | stripColours
  | executable
  | unlocated
  deriving DecidableEq, Repr

namespace Field

/-- The name of a field. -/
def name : Field → Text
  | indentUnit => "indent_unit".toList
  | stripColours => "strip_ansi".toList
  | executable => "executable".toList
  | unlocated => "unlocated".toList

/-- The fields in the order in which they are checked. -/
def all : List Field := [indentUnit, stripColours, executable, unlocated]

/-- The field of a given name. -/
def ofName? (name : Text) : Option Field := all.find? fun field => field.name == name

/-- The field a key names; only texts are names. -/
def ofKey? : Value → Option Field
  | .text name => (WideText.narrow? name).bind ofName?
  | _ => none

end Field

/-- The values proposed for the four fields. -/
structure Draft where
  indentUnit : Value
  stripColours : Value
  executable : Value
  unlocated : Value

/-- The settings as values. -/
def draft (s : Settings) : Draft where
  indentUnit := .int s.indentUnit
  stripColours := .bool s.stripColours
  executable := .text s.executable
  unlocated := .text s.unlocated.name.wide

namespace Draft

/-- The draft with another value for one field. -/
def set (d : Draft) (field : Field) (v : Value) : Draft :=
  match field with
  | .indentUnit => { d with indentUnit := v }
  | .stripColours => { d with stripColours := v }
  | .executable => { d with executable := v }
  | .unlocated => { d with unlocated := v }

/-- The draft with the entries of a mapping put in, keys that name no field left out. -/
def setAll (d : Draft) (entries : List (Value × Value)) : Draft :=
  entries.foldl
    (fun d entry => (Field.ofKey? entry.1).elim d fun field => d.set field entry.2) d

/-- A level's width: a positive integer, truth values not counted as numbers. -/
def checkUnit [Value.Writing] : Value → Except Fault { n : Nat // 0 < n }
  | .int n =>
    if h : 0 < n then .ok ⟨n.toNat, by omega⟩
    else .error (.about (fun _ => .unitNotPositive n) (.int n))
  | v => .error (.about .unitNotInteger v)

/-- Whether colours are removed: a truth value. -/
def checkStrip [Value.Writing] : Value → Except Fault Bool
  | .bool b => .ok b
  | v => .error (.about .stripNotBoolean v)

/-- The compiler: a text that is not blank. -/
def checkExecutable : Value → Except Fault { t : WideText // WideText.allBlank t = false }
  | .text t =>
    match h : WideText.allBlank t with
    | false => .ok ⟨t, h⟩
    | true => .error .executableBlank
  | _ => .error .executableBlank

/-- The unlocated policy: the name of one. -/
def checkUnlocated [Value.Writing] : Value → Except Fault Compiler.UnlocatedPolicy
  | .text t =>
    match (WideText.narrow? t).bind Compiler.UnlocatedPolicy.ofName? with
    | some policy => .ok policy
    | none => .error (.unlocatedUnknown (.text t))
  | v => .error (.about .unlocatedUnknown v)

/-- The settings a draft proposes, the first wrong field being at fault. -/
def check [Value.Writing] (d : Draft) : Except Fault Settings := do
  let unit ← checkUnit d.indentUnit
  let strip ← checkStrip d.stripColours
  let executable ← checkExecutable d.executable
  let unlocated ← checkUnlocated d.unlocated
  return ⟨unit.1, strip, executable.1, unlocated, unit.2, executable.2⟩

end Draft

/-- The keys that name no field. -/
def unknownKeys (keys : List Value) : List Value :=
  keys.filter fun key => (Field.ofKey? key).isNone

/-- The keys as they are shown, by code point. -/
def shownKeys (keys : List Value) : List WideText := (keys.map Value.shown).mergeSort WideText.le

/-- The settings a mapping describes; fields it does not name keep their defaults. Keys have no
members, so a key that cannot be written has too many digits. -/
def ofEntries [Value.Writing] (entries : List (Value × Value)) : Except Fault Settings :=
  let unknown := unknownKeys (entries.map (·.1))
  if unknown.isEmpty then (default.draft.setAll entries).check
  else if unknown.all Value.isWritable then .error (.unknownKeys (shownKeys unknown))
  else .error (.unwritable .tooManyDigits)

/-- Why settings cannot be overridden. -/
inductive OverrideFault where
  /-- An override has a name that no field has. -/
  | unknownField
  | invalid (fault : Fault)

/-- Whether a value is nothing. -/
def isNull : Value → Bool
  | .null => true
  | _ => false

/-- The settings with some fields overridden. An override by nothing leaves its field alone,
whatever its name. -/
def override [Value.Writing] (s : Settings) (overrides : List (Text × Value)) :
    Except OverrideFault Settings :=
  let changes := overrides.filter fun change => !isNull change.2
  if changes.isEmpty then .ok s
  else if changes.any fun change => (Field.ofName? change.1).isNone then .error .unknownField
  else
    (s.draft.setAll (changes.map fun change => (Value.text change.1.wide, change.2))).check.mapError
      .invalid

/-- The settings as one record shows them. -/
def written (s : Settings) : String :=
  let unit := String.ofList (Text.ofNat s.indentUnit)
  let strip := String.ofList (Value.boolText s.stripColours)
  let executable := String.ofList (Quoted.encodeWide s.executable)
  let policy := match s.unlocated with
    | .drop => "<UnlocatedPolicy.DROP: 'drop'>"
    | .keep => "<UnlocatedPolicy.KEEP: 'keep'>"
  s!"AmberConfig(indent_unit={unit}, strip_ansi={strip}, executable={executable}, " ++
    s!"unlocated={policy})"

end Settings
end AmberTools
