import ProofLogin.Commitment.Migration
import ProofLogin.Text.Integer

/-!
# Command/Arguments — what an operator asks for

The words of a command come first, its options and its operand in any order after them. An option is
given as `--name value` or `--name=value`, or by its letter; a value that follows as a word of its
own does not begin with a minus sign. Everything after `--` is an operand. An option is given once,
apart from the verbosity; the settings file can be named again after each word of the command, and
the last one counts.
-/

namespace ProofLogin

/-! ## Commands -/

/-- **Where the key that signs a token comes from.** -/
inductive KeySource where
  | text (hex : String)
  | file (path : String)
  | missing
  deriving DecidableEq, Repr

/-- **What is to be migrated**: one secret, verified against a commitment if one is given, or the
users of a file. -/
inductive MigrationSubject where
  | secret (secret salt : String) (expected : Option String)
  | batch (path : String)
  deriving DecidableEq, Repr

/-- **What a token is to say.** -/
structure TokenRequest where
  userId : String
  vkId : String
  challenge : Option UInt64
  ttl : Option UInt64
  keyId : Option String
  now : Option Int64
  deriving DecidableEq, Repr

/-- **A command.** -/
inductive Command where
  | setupKeys (folder : String)
  | fingerprint (path : String)
  | commit (secret : String) (salt : Option String) (json : Bool)
  | migrate (costs : MigrationCosts) (subject : MigrationSubject) (json : Bool)
  | policy (keyPath : Option String)
  | issueToken (key : KeySource) (request : TokenRequest)
  | inspectToken (key : KeySource) (token : String) (now : Option Int64)
  deriving DecidableEq, Repr

/-- A command under a settings file. -/
structure Invocation where
  config : Option String
  command : Command
  deriving DecidableEq, Repr

namespace Arguments

/-! ## Options -/

/-- **What an option takes.** A path is not empty; `tally` takes nothing and can be repeated. -/
inductive Kind where
  | tally
  | flag
  | text
  | path
  | uint32
  | uint64
  | int64
  deriving DecidableEq, Repr

/-- A number of 32 bits, which may have any sign that does not matter. -/
def uint32? (s : String) : Option UInt32 := do
  let n ← (Integer.readInt64 s).toOption
  if 0 ≤ n.toInt ∧ n.toInt < 0x100000000 then some (UInt32.ofNat n.toInt.toNat) else none

/-- A number of 64 bits without sign. -/
def uint64? (s : String) : Option UInt64 :=
  (Integer.readUInt64 s).toOption

/-- A number of 64 bits with sign. -/
def int64? (s : String) : Option Int64 :=
  (Integer.readInt64 s).toOption

/-- The option takes a value. -/
def Kind.takesValue : Kind → Bool
  | .tally => false
  | .flag => false
  | _ => true

/-- The values that an option takes. -/
def Kind.accepts : Kind → String → Bool
  | .path, s => s ≠ ""
  | .uint32, s => (uint32? s).isSome
  | .uint64, s => (uint64? s).isSome
  | .int64, s => (int64? s).isSome
  | _, _ => true

/-- **An option**: its name, its letter and what it takes. -/
structure Spec where
  name : String
  letter : Option Char
  kind : Kind
  deriving DecidableEq, Repr

/-- **The commands by their words.** -/
inductive Verb where
  | setupKeys
  | fingerprint
  | commit
  | migrate
  | policy
  | issueToken
  | inspectToken
  deriving DecidableEq, Repr

/-- The words of the commands. -/
def verbs : List (List String × Verb) := [
  (["keys", "setup"], .setupKeys),
  (["keys", "fingerprint"], .fingerprint),
  (["commit"], .commit),
  (["migrate"], .migrate),
  (["policy"], .policy),
  (["token", "issue"], .issueToken),
  (["token", "inspect"], .inspectToken)]

/-- The options of every command. -/
def commonSpecs : List Spec := [⟨"verbose", some 'v', .tally⟩, ⟨"config", none, .path⟩]

/-- The options of a command beside the common ones. -/
def Verb.specs : Verb → List Spec
  | .setupKeys => [⟨"output", some 'o', .path⟩]
  | .fingerprint => []
  | .commit => [⟨"secret", none, .text⟩, ⟨"salt", none, .text⟩, ⟨"json", none, .flag⟩]
  | .migrate => [
    ⟨"secret", none, .text⟩, ⟨"salt", none, .text⟩, ⟨"old-commitment", none, .text⟩,
    ⟨"old-iterations", none, .uint32⟩, ⟨"new-iterations", none, .uint32⟩,
    ⟨"memory-kib", none, .uint32⟩, ⟨"batch", none, .path⟩, ⟨"json", none, .flag⟩]
  | .policy => [⟨"vk", none, .path⟩]
  | .issueToken => [
    ⟨"key-hex", none, .text⟩, ⟨"key-file", none, .path⟩, ⟨"user", none, .text⟩,
    ⟨"vk-id", none, .text⟩, ⟨"challenge", none, .uint64⟩, ⟨"ttl", none, .uint64⟩,
    ⟨"kid", none, .text⟩, ⟨"now", none, .int64⟩]
  | .inspectToken => [
    ⟨"key-hex", none, .text⟩, ⟨"key-file", none, .path⟩, ⟨"now", none, .int64⟩]

/-- What the operand of a command is, if it has one. -/
def Verb.operandKind? : Verb → Option Kind
  | .fingerprint => some .path
  | .inspectToken => some .text
  | _ => none

/-! ## Reading -/

/-- **What has been read**: the words of the command, the options since the last of them, the option
that waits for its value, the operand, and whether only operands can follow. -/
structure Reader where
  words : List String
  config : Option String
  given : List (String × String)
  waiting : Option Spec
  operand : Option String
  closed : Bool

namespace Reader

/-- Nothing has been read. -/
def start : Reader := ⟨[], none, [], none, none, false⟩

/-- The command, once all its words have been read. -/
def verb? (r : Reader) : Option Verb :=
  verbs.lookup r.words

/-- The options that can be given now. -/
def specs (r : Reader) : List Spec :=
  commonSpecs ++ (r.verb?.map Verb.specs).getD []

/-- The value of an option. -/
def value? (r : Reader) (name : String) : Option String :=
  r.given.lookup name

/-- An option is given. -/
def has (r : Reader) (name : String) : Bool :=
  (r.value? name).isSome

/-- **An option with its value**, unless it takes another one or is given already. -/
def put (r : Reader) (spec : Spec) (value : String) : Option Reader :=
  let r := { r with waiting := none }
  if spec.kind = .tally then some r
  else if spec.kind.accepts value && !r.has spec.name then
    some { r with given := (spec.name, value) :: r.given }
  else none

/-- An option that takes a value from the next word. -/
def await (r : Reader) (spec : Spec) : Reader :=
  { r with waiting := some spec }

/-- One more word of the command. -/
def enter (r : Reader) (word : String) : Option Reader :=
  let words := r.words ++ [word]
  if verbs.any fun (ws, _) => words.isPrefixOf ws then
    some { r with words, config := (r.value? "config").or r.config, given := [] }
  else none

/-- An operand, of which a command has one or none. -/
def putOperand (r : Reader) (s : String) : Option Reader := do
  let kind ← (← r.verb?).operandKind?
  if kind.accepts s && r.operand.isNone then some { r with operand := some s } else none

/-- An option by its name, with or without a value after an equals sign. -/
def putLong (r : Reader) (cs : List Char) : Option Reader := do
  let name := String.ofList (cs.takeWhile (· ≠ '='))
  let spec ← r.specs.find? fun spec => spec.name = name
  match cs.dropWhile (· ≠ '='), spec.kind.takesValue with
  | [], true => some (r.await spec)
  | [], false => r.put spec ""
  | _ :: value, true => r.put spec (String.ofList value)
  | _ :: _, false => none

/-- Options by their letters; one that takes a value takes the rest of the word. -/
def putLetters (r : Reader) : List Char → Option Reader
  | [] => some r
  | c :: cs => do
    let spec ← r.specs.find? fun spec => spec.letter = some c
    match spec.kind.takesValue, cs with
    | false, _ => (← r.put spec "").putLetters cs
    | true, [] => some (r.await spec)
    | true, '=' :: value => r.put spec (String.ofList value)
    | true, value => r.put spec (String.ofList value)

/-- **One more argument.** -/
def push (r : Reader) (s : String) : Option Reader :=
  if r.closed then r.putOperand s
  else match r.waiting, s.toList with
    | some spec, ['-'] => r.put spec s
    | some _, '-' :: _ => none
    | some spec, _ => r.put spec s
    | none, ['-', '-'] => some { r with closed := true }
    | none, '-' :: '-' :: cs => r.putLong cs
    | none, ['-'] => r.putOperand s
    | none, '-' :: cs => r.putLetters cs
    | none, _ => if r.verb?.isSome then r.putOperand s else r.enter s

/-! ## Commands from options -/

/-- The source of a key: not both of a text and a file. -/
def keySource? (r : Reader) : Option KeySource :=
  match r.value? "key-hex", r.value? "key-file" with
  | some _, some _ => none
  | some hex, none => some (.text hex)
  | none, some path => some (.file path)
  | none, none => some .missing

/-- The costs before and after a migration: one pass and three, where nothing else is given. -/
def costs (r : Reader) : MigrationCosts :=
  let number (name : String) (default : UInt32) := ((r.value? name).bind uint32?).getD default
  let memory := number "memory-kib" 65536
  ⟨⟨memory, number "old-iterations" 1⟩, ⟨memory, number "new-iterations" 3⟩⟩

/-- What is to be migrated: a secret with its salt, or else a file. -/
def subject? (r : Reader) : Option MigrationSubject :=
  match r.value? "batch" with
  | none => do
    return .secret (← r.value? "secret") (← r.value? "salt") (r.value? "old-commitment")
  | some path =>
    if r.has "secret" || r.has "salt" || r.has "old-commitment" then none else some (.batch path)

/-- **The command that has been read**, if nothing is missing. -/
def command? (r : Reader) : Option Command := do
  match ← r.verb? with
  | .setupKeys => return .setupKeys ((r.value? "output").getD ".")
  | .fingerprint => return .fingerprint (← r.operand)
  | .commit => return .commit (← r.value? "secret") (r.value? "salt") (r.has "json")
  | .migrate => return .migrate r.costs (← r.subject?) (r.has "json")
  | .policy => return .policy (r.value? "vk")
  | .issueToken =>
    return .issueToken (← r.keySource?) {
      userId := ← r.value? "user"
      vkId := (r.value? "vk-id").getD ""
      challenge := (r.value? "challenge").bind uint64?
      ttl := (r.value? "ttl").bind uint64?
      keyId := r.value? "kid"
      now := (r.value? "now").bind int64? }
  | .inspectToken =>
    return .inspectToken (← r.keySource?) (← r.operand) ((r.value? "now").bind int64?)

end Reader

/-- **What an operator asks for**, if it is a command. -/
def read? (args : List String) : Option Invocation := do
  let r ← args.foldlM Reader.push .start
  if r.waiting.isSome then none
  else return ⟨(r.value? "config").or r.config, ← r.command?⟩

end Arguments

end ProofLogin
