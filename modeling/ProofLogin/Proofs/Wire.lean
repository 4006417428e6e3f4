import ProofLogin.Proofs.Commitment.Migration
import ProofLogin.Proofs.Keys.Event
import ProofLogin.Proofs.Login.Config
import ProofLogin.Proofs.Proof.Circuit
import ProofLogin.Proofs.Proof.Envelope
import ProofLogin.Proofs.Token.Codec

/-!
# Proofs/Wire — what travels between clients and servers comes back as it was sent

    value ──toJson──▸ JSON value ──render──▸ text ──ofText?──▸ tree ──ofJson?──▸ value

A type travels in a `Format`, a way to write its values and a way to read them. The two are written
separately, and the reader accepts much more than the writer writes: members in any order and among
unknown ones, arrays in place of objects, missing members, digits of either case, moments at any
place of the earth. `Format.Lawful` says that they agree on what is written, and
`Format.Lawful.read?_write` follows the text through the reader.

`Wire` lists the types that travel; `Wire.lawful` is the law of each of them.
-/

namespace ProofLogin

open Json (Tree Value)

/-! ## Formats -/

/-- **How the values of a type are written and read**, and which of them have a text that says
everything. -/
structure Format (α : Type) where
  toJson : α → Value
  ofJson? : Tree → Option α
  IsPlain : α → Prop := fun _ => True

namespace Format

variable {α : Type} {f : Format α}

/-- The text of a value. -/
def write (f : Format α) (a : α) : String :=
  (f.toJson a).render

/-- The value that a text spells. -/
def read? (f : Format α) (s : String) : Option α :=
  (Tree.ofText? s).bind f.ofJson?

/-- **What is written is read back**, tree by tree. -/
structure Lawful (f : Format α) : Prop where
  isExact : ∀ a, (f.toJson a).IsExact
  ofJson?_tree : ∀ {a}, f.IsPlain a → f.ofJson? (f.toJson a).tree = some a

/-- **What is written is read back**, text by text. -/
theorem Lawful.read?_write (h : f.Lawful) {a : α} (ha : f.IsPlain a) :
    f.read? (f.write a) = some a := by
  rw [read?, write, Tree.ofText?_render (h.isExact a), Option.bind_some, h.ofJson?_tree ha]

end Format

/-! ## The types that travel -/

/-- **A type whose values travel.** -/
inductive Wire where
  | policy
  | kdfCost
  | commitment
  | migrationCosts
  | migrationOutcome
  | migrationEntry
  | migratedUser
  | migrationReport
  | publicInputs
  | envelope
  | policyBundle
  | claims
  | issuedChallenge
  | rotationSchedule
  | authConfig
  | keyVersion
  | rotationEvent
  deriving DecidableEq, Repr

namespace Wire

/-- The values of a type that travels. -/
def Carrier : Wire → Type
  | policy => Policy
  | kdfCost => KdfCost
  | commitment => Commitment
  | migrationCosts => MigrationCosts
  | migrationOutcome => MigrationOutcome
  | migrationEntry => MigrationEntry
  | migratedUser => MigratedUser
  | migrationReport => MigrationReport
  | publicInputs => PublicInputs
  | envelope => Envelope
  | policyBundle => PolicyBundle
  | claims => Claims
  | issuedChallenge => IssuedChallenge
  | rotationSchedule => RotationSchedule
  | authConfig => AuthConfig
  | keyVersion => KeyVersion
  | rotationEvent => RotationEvent

/-- **How the values of a type travel.** Only moments are not all plain. -/
def format : (w : Wire) → Format w.Carrier
  | policy => { toJson := Policy.toJson, ofJson? := Policy.ofJson? }
  | kdfCost => { toJson := KdfCost.toJson, ofJson? := KdfCost.ofJson? }
  | commitment => { toJson := Commitment.toJson, ofJson? := Commitment.ofJson? }
  | migrationCosts => { toJson := MigrationCosts.toJson, ofJson? := MigrationCosts.ofJson? }
  | migrationOutcome => { toJson := MigrationOutcome.toJson, ofJson? := MigrationOutcome.ofJson? }
  | migrationEntry => { toJson := MigrationEntry.toJson, ofJson? := MigrationEntry.ofJson? }
  | migratedUser =>
    { toJson := MigratedUser.toJson, ofJson? := MigratedUser.ofJson? Value.deepest }
  | migrationReport => { toJson := MigrationReport.toJson, ofJson? := MigrationReport.ofJson? }
  | publicInputs => { toJson := PublicInputs.toJson, ofJson? := PublicInputs.ofJson? }
  | envelope => { toJson := Envelope.toJson, ofJson? := Envelope.ofJson? }
  | policyBundle => { toJson := PolicyBundle.toJson, ofJson? := PolicyBundle.ofJson? }
  | claims => { toJson := Claims.toJson, ofJson? := Claims.ofJson? }
  | issuedChallenge => { toJson := IssuedChallenge.toJson, ofJson? := IssuedChallenge.ofJson? }
  | rotationSchedule => { toJson := RotationSchedule.toJson, ofJson? := RotationSchedule.ofJson? }
  | authConfig => { toJson := AuthConfig.toJson, ofJson? := AuthConfig.ofJson? }
  | keyVersion =>
    { toJson := KeyVersion.toJson, ofJson? := KeyVersion.ofJson?, IsPlain := KeyVersion.IsPlain }
  | rotationEvent =>
    { toJson := RotationEvent.toJson, ofJson? := RotationEvent.ofJson?,
      IsPlain := RotationEvent.IsPlain }

/-- **Every type is read back as it is written.** -/
theorem lawful (w : Wire) : w.format.Lawful := by
  cases w with
  | policy => exact ⟨Policy.isExact_toJson, fun _ => Policy.ofJson?_tree _⟩
  | kdfCost => exact ⟨KdfCost.isExact_toJson, fun _ => KdfCost.ofJson?_tree _⟩
  | commitment => exact ⟨Commitment.isExact_toJson, fun _ => Commitment.ofJson?_tree _⟩
  | migrationCosts => exact ⟨MigrationCosts.isExact_toJson, fun _ => MigrationCosts.ofJson?_tree _⟩
  | migrationOutcome =>
    exact ⟨MigrationOutcome.isExact_toJson, fun _ => MigrationOutcome.ofJson?_tree _⟩
  | migrationEntry => exact ⟨MigrationEntry.isExact_toJson, fun _ => MigrationEntry.ofJson?_tree _⟩
  | migratedUser => exact ⟨MigratedUser.isExact_toJson, fun _ => MigratedUser.ofJson?_tree _ _⟩
  | migrationReport =>
    exact ⟨MigrationReport.isExact_toJson, fun _ => MigrationReport.ofJson?_tree _⟩
  | publicInputs => exact ⟨PublicInputs.isExact_toJson, fun _ => PublicInputs.ofJson?_tree _⟩
  | envelope => exact ⟨Envelope.isExact_toJson, fun _ => Envelope.ofJson?_tree _⟩
  | policyBundle => exact ⟨PolicyBundle.isExact_toJson, fun _ => PolicyBundle.ofJson?_tree _⟩
  | claims => exact ⟨Claims.isExact_toJson, fun _ => Claims.ofJson?_tree _⟩
  | issuedChallenge =>
    exact ⟨IssuedChallenge.isExact_toJson, fun _ => IssuedChallenge.ofJson?_tree _⟩
  | rotationSchedule =>
    exact ⟨RotationSchedule.isExact_toJson, fun _ => RotationSchedule.ofJson?_tree _⟩
  | authConfig => exact ⟨AuthConfig.isExact_toJson, fun _ => AuthConfig.ofJson?_tree _⟩
  | keyVersion => exact ⟨KeyVersion.isExact_toJson, KeyVersion.ofJson?_tree⟩
  | rotationEvent => exact ⟨RotationEvent.isExact_toJson, RotationEvent.ofJson?_tree⟩

/-- **What travels comes back.** A value is read from its text as it was written; and whatever text
a value was read from, the text that it is then written as is accepted and written again as the
same. -/
theorem round_trip (w : Wire) :
    (∀ x, w.format.IsPlain x → w.format.read? (w.format.write x) = some x)
      ∧ ∀ text x, w.format.read? text = some x → w.format.IsPlain x →
        ∃ y, w.format.read? (w.format.write x) = some y
          ∧ w.format.write y = w.format.write x :=
  ⟨fun _ hx => w.lawful.read?_write hx, fun _ x _ hx => ⟨x, w.lawful.read?_write hx, rfl⟩⟩

/-- A warning of a key that ends on a leap day, in the middle of its last second. -/
def sampleEvent : RotationEvent where
  kind := .expiryWarning
  vkId := ⟨⟨List.replicate 32 0xAB, rfl⟩⟩
  previous := none
  expiresAt := some ⟨1709251199, 123456789, by decide⟩
  message := ""

/-- The members of the warning in their order, with the digits in capitals and the moment by the
clock of a place two hours ahead, where it is March. -/
def sampleText : String :=
  "[\"expiry_warning\",\"" ++ String.ofList (List.replicate 32 ['A', 'B']).flatten
    ++ "\",null,\"2024-03-01T01:59:59.123456789+02:00\",\"\"]"

/-- The warning comes back from its own text and from this one, which is written again as its
own. -/
theorem round_trip_sample :
    sampleEvent.IsPlain ∧ rotationEvent.format.read? sampleText = some sampleEvent
      ∧ rotationEvent.format.read? (rotationEvent.format.write sampleEvent) = some sampleEvent
      ∧ ∃ y, rotationEvent.format.read? (rotationEvent.format.write sampleEvent) = some y
          ∧ rotationEvent.format.write y = rotationEvent.format.write sampleEvent := by
  have hplain : sampleEvent.IsPlain := by
    intro t ht
    obtain rfl := Option.some.inj ht
    decide
  have hread : (Tree.ofText? sampleText).bind RotationEvent.ofJson? = some sampleEvent := by
    decide +kernel
  obtain ⟨hwrite, hagain⟩ := round_trip .rotationEvent
  exact ⟨hplain, hread, hwrite _ hplain, hagain _ _ hread hplain⟩

end Wire

end ProofLogin
