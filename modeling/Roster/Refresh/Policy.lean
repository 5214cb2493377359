import Roster.Settings.Error
import Roster.Text.LowerCase

namespace Roster.Refresh

/-! What becomes of the candidates that were gathered before the source failed. -/

inductive PartialPolicy where
  | proceed
  | abort
  deriving DecidableEq, Inhabited

namespace PartialPolicy

def label : PartialPolicy → String
  | proceed => "proceed"
  | abort => "abort"

def settingName : String := "PORTAL_REFRESH_PARTIAL_POLICY"

def parse (text : String) : Except SettingsError PartialPolicy :=
  match Text.lowerCase (Text.trim text) with
  | "proceed" => .ok proceed
  | "abort" => .ok abort
  | other => .error (.invalidValue settingName other "expected 'proceed' or 'abort'")

end PartialPolicy

end Roster.Refresh
