import QuizOverrides.Config.Settings
import QuizOverrides.Calendar.Stamp
import QuizOverrides.Row.Cells

set_option autoImplicit false

/-!
# Settings of imports

The length of generated passwords, the life of a batch and the zone of templates, as a site
configures them.

## Main definitions

* `QuizOverrides.ImportOptions.ofSettings` — the options that settings give, if they are within
  their bounds.
-/

namespace QuizOverrides

/-- The name of the length of generated passwords. -/
def passwordLengthKey : String := "OVERRIDE_PASSWORD_LENGTH"

/-- The name of the life of a batch in minutes. -/
def batchMinutesKey : String := "OVERRIDE_IMPORT_TTL_MINUTES"

/-- The name of the zone in which templates write times. -/
def templateZoneKey : String := "OVERRIDE_TEMPLATE_TIMEZONE"

namespace ImportOptions

/-- A length of generated passwords: at least one character, and no more than a password may
have. -/
def checkLength : Whole → Except SettingFault Int
  | value@(.finite length) =>
    if length < 1 then .error (.belowLeast passwordLengthKey 1 value)
    else if (maxPasswordLength : Int) < length then
      .error (.aboveMost passwordLengthKey maxPasswordLength value)
    else .ok length
  | value@(.beyond true) => .error (.belowLeast passwordLengthKey 1 value)
  | value@(.beyond false) => .error (.aboveMost passwordLengthKey maxPasswordLength value)

/-- **The options of settings.** All three are read before the first is checked, so that a text that
is no number is reported before a number that is out of bounds. The zone has to be one that the
runtime knows. -/
def ofSettings (zones : Calendar.ZoneData) (settings : Settings) :
    Except SettingFault ImportOptions := do
  let length ← settings.number passwordLengthKey (.finite standard.passwordLength)
  let minutes ← settings.number batchMinutesKey standard.batchMinutes
  let zone := settings.getD templateZoneKey standard.timeZone
  let length ← checkLength length
  if minutes.below 1 then throw (.belowLeast batchMinutesKey 1 minutes)
  if !zones.knows zone then throw (.unknownZone templateZoneKey zone)
  pure ⟨length, minutes, zone⟩

/-- The options as a payload. -/
def payload (o : ImportOptions) : Payload :=
  .record
    [("passwordLength", .ofInt o.passwordLength), ("batchTtlMinutes", .ofWhole o.batchMinutes),
      ("templateTimeZone", .text o.timeZone)]

end ImportOptions

end QuizOverrides
