import TileRealm.Files
import TileRealm.Settings.Reader
import TileRealm.Text.Digit
import TileRealm.Text.Quoted
import TileRealm.Toml.Reader

/-!
# The command line

A command line is a row of options, each with its value behind it.  What stands behind an option is
its value, whatever it looks like; of two values for one option the last counts.

* `Arguments.parse`: what a command line asks for, or the first thing in it that is wrong.
* `Settings.load`: the settings in a file.
* `Arguments.settings`: the settings in the file that was asked for, with the other options on top.
-/

set_option autoImplicit false

namespace TileRealm

/-! ## Numbers -/

/-- Why a text is not a number of 64 bits. -/
inductive NumberFault where
  | empty
  | notDigit
  | tooLarge
deriving DecidableEq

/-- The text that tells a reader why. -/
def NumberFault.message : NumberFault → String
  | empty => "cannot parse integer from empty string"
  | notDigit => "invalid digit found in string"
  | tooLarge => "number too large to fit in target type"

/-- The number that decimal digits stand for, behind digits that stand for `n`.  It fails at the first
character that is no digit or makes the number too large. -/
def readDigits (n : Nat) : List Char → Except NumberFault Nat
  | [] => .ok n
  | c :: cs =>
    match Text.digitValue? 10 c with
    | none => .error .notDigit
    | some d => if n * 10 + d < UInt64.size then readDigits (n * 10 + d) cs else .error .tooLarge

/-- A number of 64 bits: decimal digits, maybe with a plus in front. -/
def readNumber (raw : String) : Except NumberFault UInt64 :=
  let digits : List Char → Except NumberFault Nat
    | [] => .error .notDigit
    | cs => readDigits 0 cs
  UInt64.ofNat <$> match raw.toList with
    | [] => .error .empty
    | '+' :: cs => digits cs
    | cs => digits cs

/-! ## Options -/

/-- What can be set on the command line. -/
inductive Flag where
  /-- The path of the settings. -/
  | config
  /-- The seed of the scene. -/
  | seed
  /-- The number of the last tick. -/
  | maxTicks
deriving DecidableEq

/-- The written form of an option. -/
def Flag.text : Flag → String
  | config => "--config"
  | seed => "--seed"
  | maxTicks => "--max-ticks"

/-- The option with a written form. -/
def Flag.ofText? (s : String) : Option Flag :=
  [config, seed, maxTicks].find? (·.text = s)

/-- What a command line asks for. -/
structure Arguments where
  configPath : Option String := none
  seed : Option UInt64 := none
  maxTicks : Option UInt64 := none
deriving DecidableEq

/-- What is wrong with a command line. -/
inductive ArgumentError where
  /-- There is no such option. -/
  | unknown (argument : String)
  /-- An option without a value. -/
  | noValue (flag : Flag)
  | number (flag : Flag) (raw : String) (fault : NumberFault)
deriving DecidableEq

/-- The text that tells a reader what is wrong. -/
def ArgumentError.message : ArgumentError → String
  | unknown argument => "Unknown argument: " ++ argument
  | noValue flag => flag.text ++ " requires a value"
  | number flag raw fault =>
    flag.text ++ ": invalid number " ++ Text.quoteString raw ++ ": " ++ fault.message

namespace Arguments

/-- Takes note of the value of an option. -/
def set (a : Arguments) (flag : Flag) (value : String) : Except ArgumentError Arguments :=
  let number := (readNumber value).mapError (ArgumentError.number flag value)
  match flag with
  | .config => .ok { a with configPath := some value }
  | .seed => number.map fun n => { a with seed := some n }
  | .maxTicks => number.map fun n => { a with maxTicks := some n }

/-- What a command line asks for beyond what is known already. -/
def parseFrom (a : Arguments) : List String → Except ArgumentError Arguments
  | [] => .ok a
  | [argument] =>
    match Flag.ofText? argument with
    | none => .error (.unknown argument)
    | some flag => .error (.noValue flag)
  | argument :: value :: rest =>
    match Flag.ofText? argument with
    | none => .error (.unknown argument)
    | some flag =>
      match a.set flag value with
      | .error e => .error e
      | .ok a => parseFrom a rest

/-- What a command line, without the name of the program, asks for. -/
def parse (arguments : List String) : Except ArgumentError Arguments :=
  parseFrom {} arguments

end Arguments

/-! ## Settings -/

/-- Why there are no settings. -/
inductive SettingsError where
  | file (fault : FileFault)
  /-- The file is no document, or a value in it has the wrong type. -/
  | form (report : String)
deriving DecidableEq

/-- The text that tells a reader why. -/
def SettingsError.message : SettingsError → String
  | file fault => fault.message
  | form report => report

/-- The settings in a file; the defaults if there is no such file. -/
def Settings.load (file : FileContent) : Except SettingsError Settings := do
  if !file.exists? then return {}
  let text ← file.text.mapError .file
  ((Toml.parse text).bind Settings.ofTable).mapError fun c => .form (c.report text)

namespace Arguments

/-- Puts what was asked for on top of settings. -/
def override (a : Arguments) (s : Settings) : Settings :=
  { s with
    scene := { s.scene with seed := a.seed.getD s.scene.seed }
    tick := { s.tick with maxTicks := a.maxTicks.getD s.tick.maxTicks } }

/-- The settings that were asked for, with the file at each path. -/
def settings (a : Arguments) (files : String → FileContent) : Except SettingsError Settings :=
  (Settings.load ((a.configPath.map files).getD (.absent .missing))).map a.override

end Arguments

/-! ## Laws -/

theorem Flag.ofText?_text (flag : Flag) : Flag.ofText? flag.text = some flag := by
  cases flag <;> decide +kernel

theorem Flag.ofText?_eq_some_iff {s : String} {flag : Flag} :
    Flag.ofText? s = some flag ↔ s = flag.text := by
  refine ⟨fun h => ?_, fun h => h ▸ ofText?_text flag⟩
  have same : flag.text = s := by simpa using List.find?_some h
  exact same.symm

@[simp] theorem Arguments.parseFrom_nil (a : Arguments) : a.parseFrom [] = .ok a := rfl

theorem Arguments.parseFrom_option (a : Arguments) (flag : Flag) (value : String)
    (rest : List String) :
    a.parseFrom (flag.text :: value :: rest) = (a.set flag value).bind (·.parseFrom rest) := by
  simp only [parseFrom, Flag.ofText?_text]
  cases a.set flag value <;> rfl

end TileRealm
