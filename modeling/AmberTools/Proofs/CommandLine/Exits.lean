import AmberTools.Proofs.CommandLine.Failures
import AmberTools.Proofs.Highlight.Formatters
import AmberTools.Proofs.Settings.Faults

/-!
# Exit codes

The exit codes are for runs that have nothing to report, that find something and that fail. But not
all failures are foreseen where the exit code is chosen: a run that meets one of the others ends
with the status that stands for findings, although nothing has been found. The causes of these
failures are known. They are null characters in names, names without bytes, settings files that fail
otherwise than with a fault of the settings, a settings file or a formatter that is not named,
formatters that do not exist, fail in a way of their own or do not write a text, and units that are
too long to be shown. The formatters that are described in this project always show a source, so
that these failures are up to the others.

## Main definitions

* `CommandLine.Escapes`: the failures that are not foreseen, by their causes.

## Main results

* `CommandLine.fails_escape_iff`: failures that are not foreseen have one of the causes.
* `CommandLine.exit_status`: what the exit codes and the status of a run mean.
-/

namespace AmberTools
namespace CommandLine

open Arguments

variable {s : Surroundings} {r : Request} {failure : Failure}

/-! ### Failures that are not foreseen -/

/-- The failures that are not foreseen, by their causes. -/
inductive Escapes [Value.Writing] [Yaml.Reader] [Formatter.Others] (s : Surroundings)
    (r : Request) : Escape → Prop
  /-- The option for a settings file has no value. -/
  | settingsUnnamed (h : r.config = .empty) : Escapes s r .settingsUnnamed
  /-- The settings file fails otherwise than with a fault of the settings. -/
  | settings {name : Text} {fault : Settings.LoadFault} {e : Escape}
      (hconfig : r.config = .value name)
      (h : Settings.Unforeseen s.files (Path.ofText name) fault)
      (hfault : Failure.ofLoad fault = .escape e) : Escapes s r e
  /-- A unit is not positive, and it is refused where a message would have to show it. -/
  | unit {loaded : Settings} {log : List LogRecord} {path : Text} {mode : IndentMode} {n : Int}
      {reason : Value.Unwritable} (hload : loadSettings s.files r.config = .ok (loaded, log))
      (hr : r.command = .indent path mode (.value n)) (hn : n ≤ 0)
      (hlong : Value.Writing.refusal? (.int n) = some reason) : Escapes s r (.unwritable reason)
  /-- The name of an output has a null character. -/
  | file {settings : Settings} {path : Text} {options : DiagnosticOptions}
      (hr : r.command = .diagnostics path options) (hpath : path ≠ ['-'])
      (hsettings : InForce s r settings) (h : '\x00' ∈ (Path.ofText path).text) :
      Escapes s r .nullCharacter
  /-- The name of a source has a null character. -/
  | source {settings : Settings} {path : Text} (hr : r.command.source? = some path)
      (hsettings : InForce s r settings) (h : '\x00' ∈ (Path.ofText path).text) :
      Escapes s r .nullCharacter
  /-- No formatter is named. -/
  | formatterUnnamed {settings : Settings} {path text : Text} (hr : r.command = .highlight path none)
      (hsettings : InForce s r settings)
      (htext : Source.read s.files (Path.ofText path) = .ok text) :
      Escapes s r (.formatter (.unknown (.list [])))
  /-- There is no formatter of the name that is given, or it is one that is not described here and
  fails otherwise than files do. -/
  | formatter {settings : Settings} {path text name : Text} {fault : Formatter.Fault}
      (hr : r.command = .highlight path (some name)) (hsettings : InForce s r settings)
      (htext : Source.read s.files (Path.ofText path) = .ok text)
      (hname : String.ofList name ∉ Formatter.names)
      (h : Formatter.Others.render name text = .error fault)
      (hfault : ∀ record, fault ≠ .foreseen record) : Escapes s r (.formatter fault)
  /-- The formatter writes a list, which is a sequence of bytes. -/
  | list {settings : Settings} {path text name : Text}
      (hr : r.command = .highlight path (some name)) (hsettings : InForce s r settings)
      (htext : Source.read s.files (Path.ofText path) = .ok text)
      (h : String.ofList name = "raw" ∨ String.ofList name = "tokens") : Escapes s r .bytesAsText
  /-- The formatter is one that is not described here and writes bytes. -/
  | bytes {settings : Settings} {path text name shown : Text}
      (hr : r.command = .highlight path (some name)) (hsettings : InForce s r settings)
      (htext : Source.read s.files (Path.ofText path) = .ok text)
      (hname : String.ofList name ∉ Formatter.names)
      (h : Formatter.Others.render name text = .ok (.bytes shown)) : Escapes s r .bytesAsText
  /-- The compiler's name has no bytes. -/
  | unencodable {settings : Settings} {path : Text} {executable : Given Text}
      {options : DiagnosticOptions} {fault : FileName.Fault}
      (hr : r.command = .check path executable options) (hsettings : InForce s r settings)
      (hcompiler : s.compiler = none) (h : FileName.bytes settings.executable = .error fault) :
      Escapes s r (.unencodable fault)
  /-- The command to start has a null character. -/
  | command {settings : Settings} {path : Text} {executable : Given Text}
      {options : DiagnosticOptions} {bytes : List UInt8}
      (hr : r.command = .check path executable options) (hsettings : InForce s r settings)
      (hcompiler : s.compiler = none) (hname : FileName.bytes settings.executable = .ok bytes)
      (h : ∃ word ∈ Compiler.command settings (Path.ofText path).text none,
        CodePoint.char '\x00' ∈ word) :
      Escapes s r .nullCharacter

theorem ofRead_eq_escape_iff {fault : ReadFault} {e : Escape} :
    Failure.ofRead fault = .escape e ↔ fault = .nullCharacter ∧ e = .nullCharacter := by
  cases fault <;> simp [Failure.ofRead, eq_comm]

theorem startFailure_eq_escape_iff {files : FileSet} {executable : WideText}
    {command : List WideText} {e : Escape} :
    startFailure files executable command = .escape e ↔
      (∃ fault, FileName.bytes executable = .error fault ∧ e = .unencodable fault) ∨
        (∃ bytes, FileName.bytes executable = .ok bytes) ∧
          (∃ word ∈ command, CodePoint.char '\x00' ∈ word) ∧ e = .nullCharacter := by
  unfold startFailure
  cases FileName.bytes executable with
  | error fault => simp [eq_comm]
  | ok bytes =>
    have hnull : command.any (·.contains (.char '\x00')) = true ↔
        ∃ word ∈ command, CodePoint.char '\x00' ∈ word := by simp
    dsimp only
    split_ifs with h
    · simp [hnull.mp h, eq_comm]
    · have hnone := mt hnull.mpr h
      constructor
      · intro heq
        split at heq <;> exact nomatch heq
      · rintro (⟨_, hname, -⟩ | ⟨-, hsome, -⟩)
        · exact nomatch hname
        · exact absurd hsome hnone

section Highlighting

variable [Formatter.Others] {name : Option Text} {text : Text}

/-- Highlighting fails without a name, or where one of the other formatters does. -/
theorem highlightBy_eq_error_iff {fault : Formatter.Fault} :
    highlightBy name text = .error fault ↔
      (name = none ∧ fault = .unknown (.list [])) ∨
        ∃ n, name = some n ∧ String.ofList n ∉ Formatter.names ∧
          Formatter.Others.render n text = .error fault := by
  cases name with
  | none => simp [highlightBy, eq_comm]
  | some n =>
    by_cases hname : String.ofList n ∈ Formatter.names
    · obtain ⟨formatter, h, -⟩ := Formatter.highlight_of_mem text hname
      simp [highlightBy, h, hname]
    · simp [highlightBy, Formatter.highlight_of_notMem text hname, hname]

/-- The formatters that write bytes are the one that writes a list, and maybe some of the others. -/
theorem highlightBy_eq_bytes_iff :
    (∃ shown, highlightBy name text = .ok (.bytes shown)) ↔
      ∃ n, name = some n ∧
        ((String.ofList n = "raw" ∨ String.ofList n = "tokens") ∨
          String.ofList n ∉ Formatter.names ∧
            ∃ shown, Formatter.Others.render n text = .ok (.bytes shown)) := by
  cases name with
  | none => simp [highlightBy]
  | some n =>
    by_cases hname : String.ofList n ∈ Formatter.names
    · obtain ⟨formatter, h, hlist⟩ := Formatter.highlight_of_mem text hname
      simp [highlightBy, h, hname, Formatter.render_eq_bytes_iff, hlist]
    · have hno : ¬ (String.ofList n = "raw" ∨ String.ofList n = "tokens") := by
        rintro (h | h) <;> simp [Formatter.names, h] at hname
      simp [highlightBy, Formatter.highlight_of_notMem text hname, hname, hno]

end Highlighting

theorem ofFormatter_eq_escape_iff {fault : Formatter.Fault} {e : Escape} :
    Failure.ofFormatter fault = .escape e ↔
      e = .formatter fault ∧ ∀ record, fault ≠ .foreseen record := by
  cases fault <;> simp [Failure.ofFormatter, eq_comm]

/-- A unit from the command line is refused if it is not positive and cannot be written. -/
theorem checkUnit_eq_unwritable_iff [Value.Writing] {n : Int} {reason : Value.Unwritable} :
    Settings.Draft.checkUnit (.int n) = .error (.unwritable reason) ↔
      n ≤ 0 ∧ Value.Writing.refusal? (.int n) = some reason := by
  unfold Settings.Draft.checkUnit
  dsimp only
  split_ifs with hpos
  · exact iff_of_false nofun fun h => by omega
  · simp [Settings.about_eq_unwritable_iff, Int.not_lt.mp hpos]

/-- Of all overrides only a unit can be one that cannot be shown. -/
theorem override_eq_unwritable_iff [Value.Writing] {loaded : Settings} {command : Command}
    {reason : Value.Unwritable} :
    loaded.override command.overrides = .error (.invalid (.unwritable reason)) ↔
      ∃ path mode n, command = .indent path mode (.value n) ∧ n ≤ 0 ∧
        Value.Writing.refusal? (.int n) = some reason := by
  have hchecked {α : Type} {x : Except Settings.Fault α} {g : α → Settings} :
      (x.map g).mapError Settings.OverrideFault.invalid =
          .error (.invalid (.unwritable reason)) ↔
        x = .error (.unwritable reason) := by
    cases x <;> simp [Except.map, Except.mapError]
  cases command with
  | diagnostics path options => simp [Command.overrides, override_diagnosticOverrides]
  | highlight path name => simp [Command.overrides, Settings.override]
  | check path executable options =>
    by_cases hgiven : executable = .omitted
    · simp [Command.overrides, hgiven, override_checkOverrides_omitted]
    · simp [Command.overrides, override_checkOverrides loaded options hgiven, hchecked,
        Settings.Draft.checkExecutable_ne_unwritable]
  | indent path mode unit =>
    cases unit with
    | omitted => simp [Command.overrides, override_unitOverrides_omitted]
    | empty =>
      rw [Command.overrides, override_unitOverrides loaded (by simp), hchecked]
      have hplain : (Value.list []).isPlain = true := rfl
      simpa [overrideBy] using Settings.Draft.checkUnit_ne_unwritable
        (Settings.refusal?_ne_of_isPlain hplain reason)
    | value n =>
      rw [Command.overrides, override_unitOverrides loaded (by simp), hchecked, overrideBy,
        checkUnit_eq_unwritable_iff]
      simp

theorem ofOverride_eq_escape_iff {fault : Settings.OverrideFault} {e : Escape} :
    Failure.ofOverride fault = .escape e ↔
      ∃ reason, fault = .invalid (.unwritable reason) ∧ e = .unwritable reason := by
  cases fault with
  | unknownField => simp [Failure.ofOverride]
  | invalid fault => cases fault <;> simp [Failure.ofOverride, Failure.ofLoad, eq_comm]

/-- Faults of the settings do not escape. -/
theorem isSettings_of_ofLoad {fault : Settings.LoadFault} {e : Escape}
    (h : Failure.ofLoad fault = .escape e) : fault.isSettings = false := by
  cases fault with
  | invalid fault =>
    cases fault with
    | unwritable => rfl
    | _ => exact nomatch h
  | _ => first | rfl | exact nomatch h

/-- Failures to load settings escape from a file, or because no file is named. -/
theorem loadSettings_eq_escape_iff [Value.Writing] [Yaml.Reader] {config : Given Text}
    {files : FileSet} {e : Escape} :
    loadSettings files config = .error (.escape e) ↔
      (config = .empty ∧ e = .settingsUnnamed) ∨
        ∃ name fault, config = .value name ∧ Settings.Unforeseen files (Path.ofText name) fault ∧
          Failure.ofLoad fault = .escape e := by
  cases config with
  | omitted => simp [loadSettings]
  | empty => simp [loadSettings, eq_comm]
  | value name =>
    have hload : loadSettings files (.value name) = .error (.escape e) ↔
        ∃ fault, Settings.load files (Path.ofText name) = .error fault ∧
          Failure.ofLoad fault = .escape e := by
      rw [loadSettings]
      cases Settings.load files (Path.ofText name) <;> simp
    rw [hload]
    simp only [reduceCtorEq, false_and, false_or, Given.value.injEq]
    constructor
    · rintro ⟨fault, h, hfault⟩
      exact ⟨name, fault, rfl,
        Settings.load_unforeseen_iff.mp ⟨h, isSettings_of_ofLoad hfault⟩, hfault⟩
    · rintro ⟨_, fault, rfl, h, hfault⟩
      exact ⟨fault, (Settings.load_unforeseen_iff.mpr h).1, hfault⟩

/-- The failures that are not foreseen are those with one of the causes. -/
theorem fails_escape_iff [Value.Writing] [Yaml.Reader] [Formatter.Others] {e : Escape} :
    Fails s r (.escape e) ↔ Escapes s r e := by
  constructor
  · intro h
    generalize hfailure : Failure.escape e = failure at h
    cases h with
    | loading h =>
      subst hfailure
      obtain ⟨hconfig, rfl⟩ | ⟨name, fault, hconfig, h, hfault⟩ := loadSettings_eq_escape_iff.mp h
      · exact .settingsUnnamed hconfig
      · exact .settings hconfig h hfault
    | @overriding loaded log fault hload h =>
      obtain ⟨reason, rfl, rfl⟩ := ofOverride_eq_escape_iff.mp hfailure.symm
      obtain ⟨path, mode, n, hr, hn, hlong⟩ := override_eq_unwritable_iff.mp h
      exact .unit hload hr hn hlong
    | input hr hsettings h => exact nomatch hfailure
    | file hr hpath hsettings h =>
      obtain ⟨rfl, rfl⟩ := ofRead_eq_escape_iff.mp hfailure.symm
      exact .file hr hpath hsettings
        (Source.readBytes_eq_nullCharacter_iff.mp (Source.readLenient_eq_error_iff.mp h))
    | source hr hsettings h =>
      obtain ⟨rfl, rfl⟩ := ofRead_eq_escape_iff.mp hfailure.symm
      exact .source hr hsettings (Source.read_eq_nullCharacter_iff.mp h)
    | formatter hr hsettings htext h =>
      obtain ⟨rfl, hfault⟩ := ofFormatter_eq_escape_iff.mp hfailure.symm
      obtain ⟨rfl, rfl⟩ | ⟨name, rfl, hname, h⟩ := highlightBy_eq_error_iff.mp h
      · exact .formatterUnnamed hr hsettings htext
      · exact .formatter hr hsettings htext hname h hfault
    | bytes hr hsettings htext h =>
      obtain rfl := Failure.escape.inj hfailure
      obtain ⟨name, rfl, hlist | ⟨hname, shown, h⟩⟩ := highlightBy_eq_bytes_iff.mp ⟨_, h⟩
      · exact .list hr hsettings htext hlist
      · exact .bytes hr hsettings htext hname h
    | compiler hr hsettings h =>
      obtain ⟨fault, hname, rfl⟩ | ⟨⟨bytes, hname⟩, hnull, rfl⟩ :=
        startFailure_eq_escape_iff.mp hfailure.symm
      · exact .unencodable hr hsettings h hname
      · exact .command hr hsettings h hname hnull
  · intro h
    cases h with
    | settingsUnnamed h => exact .loading (loadSettings_eq_escape_iff.mpr (.inl ⟨h, rfl⟩))
    | settings hconfig h hfault =>
      exact .loading (loadSettings_eq_escape_iff.mpr (.inr ⟨_, _, hconfig, h, hfault⟩))
    | unit hload hr hn hlong =>
      exact .overriding hload (override_eq_unwritable_iff.mpr ⟨_, _, _, hr, hn, hlong⟩)
    | file hr hpath hsettings h =>
      have hnull := Source.readLenient_eq_error_iff.mpr
        (Source.readBytes_eq_nullCharacter_iff.mpr h : Source.readBytes s.files _ = _)
      exact .file hr hpath hsettings hnull
    | source hr hsettings h =>
      exact .source hr hsettings (Source.read_eq_nullCharacter_iff.mpr h)
    | formatterUnnamed hr hsettings htext =>
      exact .formatter hr hsettings htext (highlightBy_eq_error_iff.mpr (.inl ⟨rfl, rfl⟩))
    | formatter hr hsettings htext hname h hfault =>
      rw [← ofFormatter_eq_escape_iff.mpr ⟨rfl, hfault⟩]
      exact .formatter hr hsettings htext
        (highlightBy_eq_error_iff.mpr (.inr ⟨_, rfl, hname, h⟩))
    | list hr hsettings htext h =>
      obtain ⟨shown, hshown⟩ := highlightBy_eq_bytes_iff.mpr ⟨_, rfl, .inl h⟩
      exact .bytes hr hsettings htext hshown
    | bytes hr hsettings htext hname h =>
      obtain ⟨shown, hshown⟩ := highlightBy_eq_bytes_iff.mpr ⟨_, rfl, .inr ⟨hname, _, h⟩⟩
      exact .bytes hr hsettings htext hshown
    | unencodable hr hsettings hcompiler h =>
      rw [← startFailure_eq_escape_iff.mpr (.inl ⟨_, h, rfl⟩)]
      exact .compiler hr hsettings hcompiler
    | command hr hsettings hcompiler hname h =>
      rw [← startFailure_eq_escape_iff.mpr (.inr ⟨⟨_, hname⟩, h, rfl⟩)]
      exact .compiler hr hsettings hcompiler

/-! ### Exit codes -/

theorem Failure.ending_ne_exit {code : Nat} (h : code ≠ 2) (failure : Failure) :
    failure.ending ≠ .exit code := by
  intro heq
  cases failure with
  | escape e => exact nomatch heq
  | _ => exact h (Ending.exit.inj heq).symm

theorem Failure.ending_eq_two_iff : failure.ending = .exit 2 ↔ ∀ e, failure ≠ .escape e := by
  cases failure <;> simp [Failure.ending]

theorem Failure.ending_eq_escaped_iff {e : Escape} :
    failure.ending = .escaped e ↔ failure = .escape e := by
  cases failure <;> simp [Failure.ending]

section Codes

variable [Value.Writing] [Yaml.Reader] [Formatter.Others]

theorem ending_eq_one_iff : (runRequest s r).ending = .exit 1 ↔ Finds s r := by
  refine ⟨fun h => ?_, Finds.ending⟩
  obtain hfinds | ⟨failure, hfails⟩ | hexit := covered s r
  · exact hfinds
  · exact absurd (hfails.ending.symm.trans h) (failure.ending_ne_exit (by decide))
  · exact nomatch hexit.symm.trans h

theorem ending_eq_two_iff :
    (runRequest s r).ending = .exit 2 ↔
      ∃ failure, Fails s r failure ∧ ∀ e, failure ≠ .escape e := by
  constructor
  · intro h
    obtain hfinds | ⟨failure, hfails⟩ | hexit := covered s r
    · exact nomatch hfinds.ending.symm.trans h
    · exact ⟨failure, hfails, Failure.ending_eq_two_iff.mp (hfails.ending.symm.trans h)⟩
    · exact nomatch hexit.symm.trans h
  · rintro ⟨failure, hfails, hforeseen⟩
    exact hfails.ending.trans (Failure.ending_eq_two_iff.mpr hforeseen)

theorem ending_eq_zero_iff :
    (runRequest s r).ending = .exit 0 ↔ ¬ Finds s r ∧ ∀ failure, ¬ Fails s r failure := by
  constructor
  · intro h
    refine ⟨fun hfinds => ?_, fun failure hfails => ?_⟩
    · exact nomatch hfinds.ending.symm.trans h
    · exact failure.ending_ne_exit (by decide) (hfails.ending.symm.trans h)
  · rintro ⟨hfinds, hfails⟩
    exact ((covered s r).resolve_left hfinds).resolve_left fun ⟨failure, h⟩ => hfails failure h

theorem ending_eq_escaped_iff {e : Escape} :
    (runRequest s r).ending = .escaped e ↔ Escapes s r e := by
  rw [← fails_escape_iff]
  constructor
  · intro h
    obtain hfinds | ⟨failure, hfails⟩ | hexit := covered s r
    · exact nomatch hfinds.ending.symm.trans h
    · rwa [Failure.ending_eq_escaped_iff.mp (hfails.ending.symm.trans h)] at hfails
    · exact nomatch hexit.symm.trans h
  · exact Fails.ending

/-- A run ends with one of three codes or escapes. It ends with one just when it finds something,
with two just when it fails in a way that is foreseen, and with nought when it does neither. What
escapes has one of the causes. It makes the status one as well, so that the status one stands for
findings or for a failure that is not foreseen. This holds whichever formatters there are besides
those that are described here. -/
theorem exit_status (s : Surroundings) (r : Request) :
    let ending := (runRequest s r).ending
    ending.status ≤ 2 ∧
      (ending = .exit 1 ↔ Finds s r) ∧
      (ending = .exit 2 ↔ ∃ failure, Fails s r failure ∧ ∀ e, failure ≠ .escape e) ∧
      (ending = .exit 0 ↔ ¬ Finds s r ∧ ∀ failure, ¬ Fails s r failure) ∧
      (∀ e, ending = .escaped e ↔ Escapes s r e) ∧
      (ending.status = 1 ↔ Finds s r ∨ ∃ e, Escapes s r e) := by
  intro ending
  have hone : ending.status = 1 ↔ ending = .exit 1 ∨ ∃ e, ending = .escaped e := by
    cases ending <;> simp [Ending.status]
  refine ⟨?_, ending_eq_one_iff, ending_eq_two_iff, ending_eq_zero_iff,
    fun _ => ending_eq_escaped_iff, ?_⟩
  · obtain hfinds | ⟨failure, hfails⟩ | hexit := covered s r
    · rw [show ending = _ from hfinds.ending]
      decide
    · rw [show ending = _ from hfails.ending]
      cases failure <;> simp [Failure.ending, Ending.status]
    · rw [show ending = _ from hexit]
      decide
  · rw [hone, ending_eq_one_iff]
    exact or_congr_right (exists_congr fun _ => ending_eq_escaped_iff)

end Codes

/-- A source file. -/
def highlightedFiles : FileSet := .ofList [("m.ab".toList, Utf8.encode "let a = 1\n".toList)]

/-- A formatter of an unknown name makes the status one, and nothing has been found. -/
theorem unknown_formatter_status :
    ∃ r, Asked.ofWords ["highlight".toList, "m.ab".toList, "--formatter".toList, "nope".toList] =
        .request r ∧
      (runRequest { files := highlightedFiles } r).ending.status = 1 ∧
      ¬ Finds { files := highlightedFiles } r := by
  let r : Request := { command := .highlight "m.ab".toList (some "nope".toList) }
  have hending : (runRequest { files := highlightedFiles } r).ending =
      .escaped (.formatter (.unknown (.text (Text.wide "nope".toList)))) := by
    have htext : Source.read highlightedFiles (Path.ofText "m.ab".toList) =
        .ok "let a = 1\n".toList := by decide +kernel
    have hname : String.ofList "nope".toList ∉ Formatter.names := by decide +kernel
    have hescapes : Escapes { files := highlightedFiles } r
        (.formatter (.unknown (.text (Text.wide "nope".toList)))) :=
      .formatter rfl ⟨.default, [], rfl, rfl⟩ htext hname rfl nofun
    exact ending_eq_escaped_iff.mpr hescapes
  refine ⟨r, by decide +kernel, ?_, fun h => ?_⟩
  · rw [hending]
    rfl
  · exact nomatch hending.symm.trans h.ending

end CommandLine
end AmberTools
