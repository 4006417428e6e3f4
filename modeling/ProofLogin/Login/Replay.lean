import ProofLogin.Text.Blank
import ProofLogin.Text.Quoted

/-!
# Login/Replay — tokens that have been used

A store remembers the identifiers of used tokens with the end of their validity, so that no token is
used twice. A cleanup forgets the identifiers of tokens that ended before now. Where replay
protection is disabled, nothing is remembered.
-/

namespace ProofLogin

/-- **Whether used tokens are remembered.** -/
inductive ReplayProtection where
  | memory
  | disabled
  deriving DecidableEq, Repr

namespace ReplayProtection

/-- The name of a mode. -/
def name : ReplayProtection → String
  | .memory => "memory"
  | .disabled => "disabled"

/-- The modes by their names. -/
def names : List (String × ReplayProtection) :=
  [("memory", .memory), ("disabled", .disabled)]

/-- The small form of an ASCII letter. -/
def lowerAscii (s : String) : String :=
  String.ofList (s.toList.map Char.toLower)

/-- **The mode that a text names**, in either case and with blanks around it, or the words for a
text that names none. -/
def ofText (s : String) : Except String ReplayProtection :=
  let s := lowerAscii (Text.trim s)
  if s = "memory" then .ok .memory
  else if s = "disabled" ∨ s = "off" ∨ s = "none" then .ok .disabled
  else .error ("unknown replay protection mode " ++ Text.quoted s)

end ReplayProtection

/-- **Why a token cannot be used.** -/
inductive ReplayError where
  | alreadyUsed
  deriving DecidableEq, Repr

/-- The words of an error. -/
def ReplayError.message : ReplayError → String
  | .alreadyUsed => "token already used"

/-- **The used tokens**: identifiers with the end of the validity of their tokens. -/
inductive ReplayStore where
  | memory (used : List (String × Int64))
  | disabled
  deriving DecidableEq, Repr

namespace ReplayStore

/-- The store of a mode, before any token has been used. -/
def ofMode : ReplayProtection → ReplayStore
  | .memory => .memory []
  | .disabled => .disabled

/-- The identifier is remembered. -/
def contains (jti : String) : ReplayStore → Bool
  | .memory used => used.any fun (jti', _) => jti' == jti
  | .disabled => false

/-- **The store with one identifier more**, unless it is remembered already. -/
def insert (s : ReplayStore) (jti : String) (expiresAt : Int64) : Except ReplayError ReplayStore :=
  match s with
  | .disabled => .ok .disabled
  | .memory used =>
    if s.contains jti then .error .alreadyUsed else .ok (.memory ((jti, expiresAt) :: used))

/-- **The store without the identifiers of tokens that ended before now.** -/
def cleanup (s : ReplayStore) (now : Int64) : ReplayStore :=
  match s with
  | .memory used => .memory (used.filter fun (_, expiresAt) => now ≤ expiresAt)
  | .disabled => .disabled

/-- The number of identifiers that are remembered. -/
def size : ReplayStore → Nat
  | .memory used => used.length
  | .disabled => 0

end ReplayStore

end ProofLogin
