import ProofLogin.Bytes

/-!
# Command/Host — what a command can do to its surroundings

A command reads and writes files, prints lines, draws random octets, and looks at the clock and at
the environment. A `Host` offers this in any monad, so that one definition of a command runs on a
real machine and is reasoned about on a disk that is a value.
-/

namespace ProofLogin

/-- **Why a file cannot be read or written.** -/
inductive FileFault where
  | missing
  | occupied
  | underFile
  | isFolder
  | notText
  | nameTooLong
  | other (words : String)
  deriving DecidableEq, Repr

/-- The words of a fault. -/
def FileFault.message : FileFault → String
  | .missing => "No such file or directory (os error 2)"
  | .occupied => "File exists (os error 17)"
  | .underFile => "Not a directory (os error 20)"
  | .isFolder => "Is a directory (os error 21)"
  | .notText => "stream did not contain valid UTF-8"
  | .nameTooLong => "File name too long (os error 36)"
  | .other words => words

/-- **The surroundings of a command.** `makeFolder` makes every folder on the way too, and does not
mind a folder that is there. -/
structure Host (m : Type → Type) where
  read : String → m (Except FileFault Bytes)
  write : String → Bytes → m (Except FileFault Unit)
  makeFolder : String → m (Except FileFault Unit)
  print : String → m Unit
  random : m Bytes32
  now : m Int64
  setting? : String → Option String

end ProofLogin
