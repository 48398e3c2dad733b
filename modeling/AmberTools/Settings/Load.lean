import AmberTools.Files.Source
import AmberTools.Settings.OfValues
import AmberTools.Yaml.Document

/-!
# Settings from files

Settings are read from a YAML file, by the reader of YAML texts that a program has. They stand at
the top of the file or in a section of their own; a file without a document gives the defaults, and
so does a section that counts as absent.
-/

namespace AmberTools
namespace Settings

/-- Why a file gives no settings. -/
inductive LoadFault where
  | unreadable (path : Text) (fault : FileFault)
  | malformed (path : Text)
  | notMapping (path : Text)
  | sectionNotMapping (path : Text)
  | invalid (fault : Fault)
  /-- The file is not UTF-8. -/
  | encoding (fault : Utf8.Fault)
  /-- The path names nothing. -/
  | nullCharacter
  /-- The reader stops, and not at the form of the text. -/
  | reader (fault : Yaml.Fault)

/-- The wording of a fault. -/
def LoadFault.message : LoadFault → WideText
  | .unreadable path fault =>
    .ofString s!"Cannot read config file {String.ofList path}: {fault.message path}"
  | .malformed path => .ofString s!"Invalid YAML in {String.ofList path}"
  | .notMapping path => .ofString s!"Config file {String.ofList path} must contain a mapping"
  | .sectionNotMapping path =>
    .ofString s!"\x60amberpy\x60 section in {String.ofList path} must be a mapping"
  | .invalid fault => fault.message
  | .encoding fault => .ofString fault.message
  | .nullCharacter => .ofString Source.nullMessage
  | .reader fault => .ofString fault.message

/-- Faults of the settings themselves, in contrast to those of the file's encoding, of its path,
of a reader that stops, and of values that cannot be shown. -/
def LoadFault.isSettings : LoadFault → Bool
  | .encoding _ => false
  | .nullCharacter => false
  | .reader _ => false
  | .invalid (.unwritable _) => false
  | _ => true

/-- The name of the section. -/
def sectionName : Text := "amberpy".toList

/-- The settings that have been read, and whether the file had a document. -/
structure Loaded where
  settings : Settings
  empty : Bool

/-- The record of loading. -/
def Loaded.record (l : Loaded) (path : Path) : String :=
  if l.empty then s!"Empty config file {String.ofList path.text}, using defaults"
  else s!"Loaded config from {String.ofList path.text}: {l.settings.written}"

/-- Whether an entry is the settings' own section. -/
def isSection (entry : Value × Nat) : Bool :=
  match entry.1 with
  | .text t => t == sectionName.wide
  | _ => false

section Loading

variable [Value.Writing]

/-- The settings among the entries of an item. -/
def ofItem (d : Yaml.Document) (entries : List (Value × Nat)) : Except LoadFault Settings :=
  (ofEntries (entries.map fun e => (e.1, d.value e.2))).mapError .invalid

/-- The settings of a section, of which nothing may stand for an empty one. -/
def ofSection (path : Text) (d : Yaml.Document) (item : Nat) : Except LoadFault Settings :=
  match d.entries? item with
  | some entries => ofItem d entries
  | none => if (d.value item).isVacant then ofItem d [] else .error (.sectionNotMapping path)

/-- The settings of a document. -/
def ofDocument (path : Text) (d : Yaml.Document) : Except LoadFault Loaded :=
  if isNull (d.value d.root) then .ok ⟨default, true⟩
  else match d.entries? d.root with
    | none => .error (.notMapping path)
    | some entries =>
      let settings :=
        match entries.find? isSection with
        | some entry => ofSection path d entry.2
        | none => ofItem d entries
      settings.map (⟨·, false⟩)

variable [Yaml.Reader]

/-- The settings of a text. -/
def ofYaml (path : Text) (text : Text) : Except LoadFault Loaded :=
  match Yaml.Reader.read text with
  | .error .malformed => .error (.malformed path)
  | .error fault => .error (.reader fault)
  | .ok none => .ok ⟨default, true⟩
  | .ok (some d) => ofDocument path d

/-- The settings of the file at a path. -/
def load (files : FileSet) (path : Path) : Except LoadFault Loaded :=
  match Source.read files path with
  | .error (.file fault path) => .error (.unreadable path fault)
  | .error (.encoding fault) => .error (.encoding fault)
  | .error .nullCharacter => .error .nullCharacter
  | .ok text => ofYaml path.text text

end Loading

end Settings
end AmberTools
