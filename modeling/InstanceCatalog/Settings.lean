import InstanceCatalog.Binary64.Lenient
import InstanceCatalog.Numeral.Integer
import InstanceCatalog.Text.Case
import InstanceCatalog.Text.Quoted

/-! # Settings

Settings come from environment variables, each with a default.  They are read in order, so the first
one that is not well formed decides the error. -/

namespace InstanceCatalog

/-- The value of each variable that is set. -/
abbrev Environment := List (String × String)

inductive SettingsError where
  | notADecimal (text : String)
  | notAnInteger (text : String)
  | tooManyDigits (count : Nat)
deriving DecidableEq, Repr

namespace SettingsError

def message : SettingsError → String
  | .notADecimal s => "could not convert string to float: " ++ Text.quoted s
  | .notAnInteger s => Numeral.malformedMessage s
  | .tooManyDigits n => Numeral.tooManyDigitsMessage n

end SettingsError

structure Settings where
  /-- The address of the page. -/
  url : String
  /-- In seconds. -/
  timeout : Binary64
  retries : Int
  userAgent : String
  logLevel : String
deriving DecidableEq, Repr

namespace Settings

/-- The variables that settings come from. -/
def variableNames : List String :=
  ["INSTANCE_TYPES_URL", "REQUEST_TIMEOUT", "HTTP_RETRIES", "USER_AGENT", "LOG_LEVEL"]

def readTimeout (s : String) : Except SettingsError Binary64 :=
  match Binary64.ofLenient? s.toList with
  | some x => .ok x
  | none => .error (.notADecimal s)

def readRetries (s : String) : Except SettingsError Int :=
  match Numeral.lenientInteger s.toList with
  | .ok i => .ok i
  | .error .malformed => .error (.notAnInteger s)
  | .error (.tooManyDigits n) => .error (.tooManyDigits n)

def ofEnvironment (env : Environment) : Except SettingsError Settings := do
  let get (name default : String) : String := (env.lookup name).getD default
  let timeout ← readTimeout (get "REQUEST_TIMEOUT" "30.0")
  let retries ← readRetries (get "HTTP_RETRIES" "2")
  return {
    url := get "INSTANCE_TYPES_URL" "https://aws.amazon.com/ec2/instance-types/"
    timeout
    retries
    userAgent := get "USER_AGENT"
      "Mozilla/5.0 (compatible; resize-bot/1.0; +https://github.com/resize-bot)"
    logLevel := String.ofList (Text.upper (get "LOG_LEVEL" "WARNING").toList)
  }

end Settings

end InstanceCatalog
