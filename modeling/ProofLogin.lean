import ProofLogin.Command.Disk
import ProofLogin.Login.Periodic
import ProofLogin.Main
import ProofLogin.Proofs.Json.Canonical
import ProofLogin.Proofs.Keys.Expiry
import ProofLogin.Proofs.Keys.Rotation
import ProofLogin.Proofs.Keys.Succession
import ProofLogin.Proofs.Login.Completeness
import ProofLogin.Proofs.Login.Drift
import ProofLogin.Proofs.Login.Interleaving
import ProofLogin.Proofs.Login.Refusal
import ProofLogin.Proofs.Proof.Binding
import ProofLogin.Proofs.Token.Rotation
import ProofLogin.Proofs.Token.RoundTrip
import ProofLogin.Proofs.Wire
import ProofLogin.Proofs.Commitment.Salt
import ProofLogin.Proofs.Commitment.Verified
import ProofLogin.Proofs.Token.KeyHint
import ProofLogin.Proofs.Commitment.Batch
import ProofLogin.Proofs.Login.Agreement
import ProofLogin.Proofs.Login.Provability
import ProofLogin.Proofs.Login.Age
import ProofLogin.Proofs.Login.Clock
import ProofLogin.Proofs.Keys.Monitor
import ProofLogin.Proofs.Keys.Listing
import ProofLogin.Proofs.Commitment.Field
import ProofLogin.Proofs.Encoding.Spelling
import ProofLogin.Proofs.Command.KeyFile
import ProofLogin.Proofs.Login.Overlay
import ProofLogin.Proofs.Login.Statement
import ProofLogin.Proofs.Login.Codes
import ProofLogin.Proofs.Json.MemberOrder
import ProofLogin.Proofs.Commitment.Cipher
