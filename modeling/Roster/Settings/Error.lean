namespace Roster

/-! Settings that cannot be used. -/

inductive SettingsError where
  | missingRequired (field : String)
  | invalidValue (field value reason : String)
  | incompatibleOptions (first second : String)
  deriving DecidableEq, Inhabited

namespace SettingsError

def kind : SettingsError → String
  | missingRequired _ => "MissingRequired"
  | invalidValue .. => "InvalidValue"
  | incompatibleOptions .. => "IncompatibleOptions"

def message : SettingsError → String
  | missingRequired field => "Missing required configuration field: " ++ field
  | invalidValue field value reason =>
    "Invalid value for " ++ field ++ ": " ++ value ++ " - " ++ reason
  | incompatibleOptions first second => "Incompatible options: " ++ first ++ " and " ++ second

end SettingsError

end Roster
