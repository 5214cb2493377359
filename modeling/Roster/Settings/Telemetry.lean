import Roster.Problem
import Roster.Settings.Environment

namespace Roster.Settings

/-! How the service names itself and writes its log. -/

inductive LogFormat where
  | json
  | pretty
  deriving DecidableEq, Inhabited

namespace LogFormat

def name : LogFormat → String
  | json => "Json"
  | pretty => "Pretty"

def parse (text : String) : Except String LogFormat :=
  match Text.lowerCaseLatin (Text.trim text) with
  | "json" => .ok json
  | "pretty" => .ok pretty
  | "text" => .ok pretty
  | other => .error ("unknown log format '" ++ other ++ "'")

end LogFormat

def serviceVersion : String := "0.4.0"

structure Telemetry where
  serviceName : String := "portal-api"
  version : String := serviceVersion
  logFormat : LogFormat := .json
  deriving DecidableEq

namespace Telemetry

def ofEnvironment (env : Environment) : Telemetry where
  serviceName := env.textOr "PORTAL_SERVICE_NAME" "portal-api"
  logFormat :=
    ((env.text? "PORTAL_LOG_FORMAT").bind fun text => (LogFormat.parse text).toOption).getD .json

/-- Logging is set up once in a process: a second time fails. -/
def start (alreadyStarted : Bool) : Except Problem Unit :=
  if alreadyStarted then
    .error (.internalError
      "Failed to init subscriber: a global default trace dispatcher has already been set")
  else .ok ()

end Telemetry

end Roster.Settings
