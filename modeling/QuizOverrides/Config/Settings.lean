import QuizOverrides.Config.EnvFile
import QuizOverrides.Number.Whole
import QuizOverrides.Payload.Innate
import QuizOverrides.Site.Log

set_option autoImplicit false

/-!
# Settings

Named values that configure a site, nearly always texts. They come from the file of the running mode
or, if there is none, from the environment. The mode is named in the environment itself.

## Main definitions

* `QuizOverrides.Settings` — names with their values.
* `QuizOverrides.Setting` — what stands under a name; `QuizOverrides.Settings.find?`.
* `QuizOverrides.SettingFault` — what is wrong with a setting.
* `QuizOverrides.Settings.load` — the settings of an environment and a file.
* `QuizOverrides.Settings.required`, `QuizOverrides.Settings.getD`,
  `QuizOverrides.Settings.number` — the values under a name.
-/

namespace QuizOverrides

/-- **Settings**: names with their values, of which the last one of a name counts. -/
structure Settings where
  entries : List (String × Payload)
deriving Repr

/-- **What stands under a name**: a value, or an innate part of every collection of settings. -/
inductive Setting where
  | value (value : Payload)
  | innate (part : Innate)
deriving Repr

namespace Setting

/-- The text of a setting. -/
def plainText : Setting → String
  | value p => p.plainText
  | innate part => part.text

/-- **What is shown of a setting.** -/
def shown : Setting → Option Payload
  | value p => some p
  | innate part => part.shown

/-- The setting is an empty text, which is as good as none. -/
def isBlank : Setting → Bool
  | value (.text s) => s == ""
  | _ => false

end Setting

/-- **What is wrong with a setting.** -/
inductive SettingFault where
  | missing (key : String)
  | notWhole (key raw : String)
  | belowLeast (key : String) (least : Int) (value : Whole)
  | aboveMost (key : String) (most : Int) (value : Whole)
  | unknownZone (key zone : String)
deriving DecidableEq, Repr

/-- The message of a fault. -/
def SettingFault.message (fault : SettingFault) : String :=
  "Configuration error: " ++
    match fault with
    | missing key => s!"Missing required environment variable {key}"
    | notWhole key raw => s!"{key} must be an integer, got '{raw}'"
    | belowLeast key least value =>
      s!"{key} must be at least {Text.intText least}, got {value.text}"
    | aboveMost key most value => s!"{key} must be at most {Text.intText most}, got {value.text}"
    | unknownZone key zone => s!"{key} '{zone}' is not a known time zone"

namespace Settings

/-- The value of a name, if there is one. -/
def get? (settings : Settings) (key : String) : Option Payload :=
  settings.entries.reverse.lookup key

/-- **What stands under a name**: its value, or what is there by nature. -/
def find? (settings : Settings) (key : String) : Option Setting :=
  match settings.get? key with
  | some value => some (.value value)
  | none => (Innate.find? key).map .innate

/-- What stands under a name that has to be there. -/
def demand (settings : Settings) (key : String) : Except SettingFault Setting :=
  match settings.find? key with
  | some setting => .ok setting
  | none => .error (.missing key)

/-- What is shown under a name, or something else if it is missing or empty. -/
def shownOr (settings : Settings) (key : String) (fallback : Option Payload) : Option Payload :=
  match settings.find? key with
  | some setting => if setting.isBlank then fallback else setting.shown
  | none => fallback

/-- The number under a name; nothing if the name is missing or empty. -/
def number? (settings : Settings) (key : String) : Except SettingFault (Option Whole) :=
  match settings.find? key with
  | none => .ok none
  | some setting =>
    if setting.isBlank then .ok none
    else
      match Whole.ofText? setting.plainText with
      | some value => .ok (some value)
      | none => .error (.notWhole key setting.plainText)

/-- **The value of a name that has to be there**, which may be empty. -/
def required (settings : Settings) (key : String) : Except SettingFault String :=
  match settings.get? key with
  | some value => .ok value.plainText
  | none => .error (.missing key)

/-- **The value of a name**, or another one if it is missing or empty. -/
def getD (settings : Settings) (key fallback : String) : String :=
  match settings.get? key with
  | some value => if value.plainText = "" then fallback else value.plainText
  | none => fallback

/-- **The number under a name**, or another one if it is missing or empty. -/
def number (settings : Settings) (key : String) (fallback : Whole) : Except SettingFault Whole :=
  (settings.number? key).map fun value => value.getD fallback

/-- The name under which the environment holds the mode. -/
def modeKey : String := "NODE_ENV"

/-- The mode of a site that names none. -/
def standardMode : String := "development"

/-- The mode in which a missing file is as it should be. -/
def testMode : String := "test"

/-- The mode that an environment names; a value that counts as not given names none. -/
def mode (env : Settings) : String :=
  match env.get? modeKey with
  | some value => if value.isEmptyValue then standardMode else value.plainText
  | none => standardMode

/-- The name of the file of settings for the mode that an environment names. -/
def fileName (env : Settings) : String :=
  ".env." ++ env.mode

/-- The settings of a file, which cannot name the model of the collection. -/
def ofFile (file : EnvFile) : Settings :=
  ⟨(file.entries.filter fun (name, _) => name ≠ Innate.modelName).map fun (name, value) =>
    (name, .text value)⟩

/-- **Loading**: the settings of the file if it has the name that belongs to the mode, and otherwise
the environment, with a warning unless the site is under test. -/
def load (env : Settings) (file : Option EnvFile) : Settings × List ConsoleLine :=
  let warning : List ConsoleLine :=
    if env.mode = testMode then []
    else [.plain .warn s!"Failed to load {env.fileName}, using process.env"]
  match file with
  | some file => if file.name = env.fileName then (ofFile file, []) else (env, warning)
  | none => (env, warning)

end Settings

end QuizOverrides
