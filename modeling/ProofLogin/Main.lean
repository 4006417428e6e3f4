import ProofLogin.Command.Run
import Std.Time

/-!
# Main — the command on a real machine

The host of a machine reads and writes real files, prints to the standard output, and takes its
random octets and its time from the system. Errors go to the standard error.
-/

namespace ProofLogin.Machine

/-- The number of an error of the system, which is told with either sign. -/
def number (code : UInt32) : Nat :=
  min code.toNat (-code).toNat

/-- The fault that an error of the system stands for. -/
def faultOf : IO.Error → FileFault
  | .noFileOrDirectory _ _ _ => .missing
  | .alreadyExists _ _ _ => .occupied
  | .inappropriateType file code details =>
    if number code = 20 then .underFile
    else if number code = 21 then .isFolder
    else .other (toString (IO.Error.inappropriateType file code details))
  | .invalidArgument file code details =>
    if number code = 36 then .nameTooLong
    else .other (toString (IO.Error.invalidArgument file code details))
  | e => .other (toString e)

/-- An action on files, whose errors are faults. -/
def attempt {α : Type} (action : IO α) : IO (Except FileFault α) := do
  try
    return .ok (← action)
  catch e =>
    return .error (faultOf e)

/-- **The host of this machine**, under an environment. -/
def host (environment : List (String × String)) : Host IO where
  read path := attempt do return (← IO.FS.readBinFile path).toList
  write path bs := attempt (IO.FS.writeBinFile path (ByteArray.mk bs.toArray))
  makeFolder path := attempt (IO.FS.createDirAll path)
  print := IO.println
  random := do
    let octets ← IO.getRandomBytes 32
    return ⟨Bytes.ofNat 32 (Bytes.toNat octets.toList), Bytes.length_ofNat _ _⟩
  now := do return Int64.ofInt (← Std.Time.Timestamp.now).toSecondsSinceUnixEpoch.val
  setting? name := environment.lookup name

/-- The variables of the environment that settings can come from. -/
def environment : IO (List (String × String)) := do
  let values ← AuthConfig.knownVariables.mapM fun v => do
    return (← IO.getEnv v.name).map fun value => (v.name, value)
  return values.filterMap id

end ProofLogin.Machine

/-- **The command.** -/
def main (args : List String) : IO UInt32 := do
  let ending ← ProofLogin.run (ProofLogin.Machine.host (← ProofLogin.Machine.environment)) args
  match ending with
  | .misused => IO.eprintln "usage: zkid [-v] [--config FILE] keys|commit|migrate|policy|token ..."
  | .failed error => IO.eprintln ("error: " ++ error.message)
  | .done _ => pure ()
  return UInt32.ofNat ending.code
