import Criteria.Json.Basic
import Criteria.Text.Blank
import Criteria.Text.Caseless

/-!
The settings of the program: how much it logs, and in what format.

Settings come from environment variables, where a format that is not known is ignored,
or from a JSON text, where nothing may be missing.
-/

namespace Criteria

inductive LogFormat where
  | text
  | json
  deriving DecidableEq, Repr

namespace LogFormat

def name : LogFormat → String
  | .text => "text"
  | .json => "json"

def ofName? (name : String) : Option LogFormat :=
  if name = "text" then some .text
  else if name = "json" then some .json
  else none

def read (text : String) : Except String LogFormat :=
  let name := String.ofList (Text.lower (Text.trim text.toList))
  match ofName? name with
  | some format => .ok format
  | none => .error ("unknown log format: " ++ name)

end LogFormat

structure Settings where
  logLevel : String := "warn"
  logFormat : LogFormat := .text
  deriving DecidableEq, Repr

namespace Settings

def ofEnvironment (environment : String → Option String) : Settings :=
  { logLevel := (environment "FILTEREXPR_LOG_LEVEL").getD "warn"
    logFormat :=
      match (environment "FILTEREXPR_LOG_FORMAT").map LogFormat.read with
      | some (.ok format) => format
      | _ => .text }

/-! ## JSON -/

def toJson (settings : Settings) : Json :=
  .ofMembers [("logLevel", .string settings.logLevel),
    ("logFormat", .string settings.logFormat.name)]

open Json (Written Glyph)

def textOfWritten? : Written → Option String
  | .string glyphs => (Glyph.decode? glyphs).map String.ofList
  | _ => none

/-- A format is a string, or an object whose only member has the name and null. -/
def formatOfWritten? : Written → Option LogFormat
  | .object [(key, .null)] => (textOfWritten? (.string key)).bind LogFormat.ofName?
  | value => (textOfWritten? value).bind LogFormat.ofName?

structure Draft where
  logLevel : Option String := none
  logFormat : Option LogFormat := none

/-- Takes a member of an object into the settings. A member that is read already is
refused, and one with another name is ignored, whatever its value. -/
def Draft.member? (settings : Draft) (key : List Glyph) (value : Written) :
    Option Draft := do
  let key ← textOfWritten? (.string key)
  if key = "logLevel" then
    guard settings.logLevel.isNone
    return { settings with logLevel := some (← textOfWritten? value) }
  else if key = "logFormat" then
    guard settings.logFormat.isNone
    return { settings with logFormat := some (← formatOfWritten? value) }
  else return settings

/-- The settings that a JSON text gives: an object with both of them, or an array of
both. -/
def read? (text : String) : Option Settings := do
  match ← Written.read? text.toList with
  | .array [level, format] =>
      return { logLevel := ← textOfWritten? level, logFormat :=
        ← formatOfWritten? format }
  | .object members =>
      let settings ← members.foldlM
        (fun settings (key, value) => settings.member? key value) ({} : Draft)
      return { logLevel := ← settings.logLevel, logFormat := ← settings.logFormat }
  | _ => none

end Settings

end Criteria
