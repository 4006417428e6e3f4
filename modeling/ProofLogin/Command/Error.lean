import ProofLogin.Command.Host
import ProofLogin.Login.Error
import ProofLogin.Text.Integer

/-!
# Command/Error — why a command fails

The words of an error say what the command was doing, and then why that failed.
-/

namespace ProofLogin

/-- **Why a command fails.** -/
inductive CommandError where
  | configUnread (path : String) (fault : FileFault)
  | configMalformed
  | configInvalid (error : LoginError)
  | folderNotMade (path : String) (fault : FileFault)
  | keyUnwritten (path : String) (fault : FileFault)
  | keyUnread (path : String) (fault : FileFault)
  | notAKey (path : String)
  | notALoginKey (path : String)
  | saltInvalid (error : CommitmentError)
  | commitmentFailed (error : CommitmentError)
  | oldCostInvalid (error : ParameterError)
  | newCostInvalid (error : ParameterError)
  | notReproduced (error : CommitmentError)
  | migrationFailed (error : CommitmentError)
  | batchUnread (path : String) (fault : FileFault)
  | batchMalformed
  | tokenKeyMissing
  | tokenKeyUnread (path : String) (fault : FileFault)
  | tokenKeyInvalid (error : TokenError)
  | ttlZero
  | ttlTooLarge
  | expiryTooLarge
  | issuanceFailed (error : TokenError)
  | tokenRejected (error : TokenError)
  deriving DecidableEq

namespace CommandError

/-- The words of an error. -/
def message : CommandError → String
  | .configUnread path fault => "failed to read config: " ++ path ++ ": " ++ fault.message
  | .configMalformed => "failed to parse config"
  | .configInvalid error => "invalid configuration: " ++ error.message
  | .folderNotMade path fault =>
    "failed to create output directory: " ++ path ++ ": " ++ fault.message
  | .keyUnwritten path fault => "failed to write " ++ path ++ ": " ++ fault.message
  | .keyUnread path fault => "failed to read key: " ++ path ++ ": " ++ fault.message
  | .notAKey path => "not a zkid key file: " ++ path
  | .notALoginKey path => path ++ " is not a login verifying key"
  | .saltInvalid error => "invalid --salt: " ++ error.message
  | .commitmentFailed error => "commitment failed: " ++ error.message
  | .oldCostInvalid error => "invalid old KDF parameters: " ++ error.message
  | .newCostInvalid error => "invalid new KDF parameters: " ++ error.message
  | .notReproduced error => "stored commitment not reproduced: " ++ error.message
  | .migrationFailed error => "migration failed: " ++ error.message
  | .batchUnread path fault => "failed to read batch file: " ++ path ++ ": " ++ fault.message
  | .batchMalformed => "failed to parse batch file"
  | .tokenKeyMissing => "one of --key-hex or --key-file is required"
  | .tokenKeyUnread path fault => "failed to read key file: " ++ path ++ ": " ++ fault.message
  | .tokenKeyInvalid error => "invalid token key: " ++ error.message
  | .ttlZero => "--ttl must be positive"
  | .ttlTooLarge => "--ttl out of range: " ++ Integer.Fault.message .tooLarge
  | .expiryTooLarge => "--ttl out of range"
  | .issuanceFailed error => "token issuance failed: " ++ error.message
  | .tokenRejected error => "token rejected: " ++ error.message

/-- The settings are at fault, not the command. -/
def isAboutConfig : CommandError → Bool
  | .configUnread _ _ => true
  | .configMalformed => true
  | .configInvalid _ => true
  | _ => false

end CommandError

/-- **How a command ends**: with an exit code, with an error, or before it began, because nobody
knows what was asked for. -/
inductive Ending where
  | done (code : Nat)
  | failed (error : CommandError)
  | misused
  deriving DecidableEq

namespace Ending

/-- **The exit code**: two if the command has not begun. -/
def code : Ending → Nat
  | .done code => code
  | .failed error => if error.isAboutConfig then 2 else 1
  | .misused => 2

/-- The error that a command fails with. -/
def error? : Ending → Option CommandError
  | .failed error => some error
  | _ => none

end Ending

end ProofLogin
