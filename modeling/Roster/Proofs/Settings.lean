import Roster.Settings

namespace Roster.Settings

/-! What is known of settings that satisfy the constraints. -/

structure Accepted (settings : Settings) : Prop where
  maxSize_pos : 0 < settings.database.maxSize
  pings : settings.database.waitForDatabase = true → 0 < settings.database.wait.maxAttempts
  maxRetries_pos : 0 < settings.source.maxRetries
  baseUrl : Text.trim settings.source.baseUrl ≠ ""
  interval_pos : settings.refresh.interval ≠ .zero
  cacheTtl_lt : settings.source.cacheTtl < settings.refresh.interval

theorem accepted_of_validate {settings : Settings} (valid : settings.validate = .ok ()) :
    settings.Accepted := by
  unfold validate at valid
  split at valid
  · cases valid
  · rename_i maxSize
    split at valid
    · cases valid
    · rename_i pings
      split at valid
      · cases valid
      · rename_i maxRetries
        split at valid
        · cases valid
        · rename_i baseUrl
          split at valid
          · cases valid
          · rename_i interval
            split at valid
            · cases valid
            · rename_i cacheTtl
              exact {
                maxSize_pos := Nat.pos_of_ne_zero maxSize
                pings := fun waits => Nat.pos_of_ne_zero fun none => pings ⟨waits, none⟩
                maxRetries_pos := Nat.pos_of_ne_zero maxRetries
                baseUrl := baseUrl
                interval_pos := interval
                cacheTtl_lt := Nat.lt_of_not_le cacheTtl }

end Roster.Settings
