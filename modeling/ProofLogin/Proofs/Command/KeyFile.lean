import ProofLogin.Command.Run
import ProofLogin.Proofs.Proof.Key

/-!
# Proofs/Command/KeyFile — what is said of a key file

The report on a key file says the role and the circuit that stand in the octets, and the digest of
the octets themselves (`KeyReport.IsOf`).  There is at most one such report (`IsOf.unique`), so that
it does not matter as which kind of key a file is tried first (`first?_eq_some_iff`).
-/

namespace ProofLogin

namespace KeyReport

variable {role : KeyRole} {roles : List KeyRole} {bs : Bytes} {r r' : KeyReport}

/-- The report on octets that are a key of a role. -/
def as? (role : KeyRole) (bs : Bytes) : Option KeyReport :=
  match KeyMaterial.ofBytes role bs with
  | .ok k => some ⟨role, k.circuit, Fingerprint.ofBytes (k.toBytes role)⟩
  | .error _ => none

/-- **The report on octets that are tried as keys of some roles**, one after the other. -/
def first? (roles : List KeyRole) (bs : Bytes) : Option KeyReport :=
  roles.findSome? (as? · bs)

/-- **A report is of octets**: they are a key of the role and the circuit that it says, and the
digest that it says is theirs. -/
structure IsOf (r : KeyReport) (bs : Bytes) : Prop where
  isKey : KeyMaterial.IsKey r.role bs
  tag_eq : bs[8]? = some (KeyMaterial.circuitTag r.circuit)
  digest_eq : r.fingerprint.digest = Sha256.hash bs

/-- **At most one report is of octets.** -/
theorem IsOf.unique (h : r.IsOf bs) (h' : r'.IsOf bs) : r = r' := by
  have hrole : r.role = r'.role :=
    KeyMaterial.mark_injective (h.isKey.take_eq.symm.trans h'.isKey.take_eq)
  have hcircuit : r.circuit = r'.circuit :=
    KeyMaterial.circuitTag_injective (Option.some.inj (h.tag_eq.symm.trans h'.tag_eq))
  have hdigest : r.fingerprint.digest = r'.fingerprint.digest :=
    h.digest_eq.trans h'.digest_eq.symm
  cases r
  cases r'
  congr
  exact congrArg Fingerprint.mk hdigest

/-- The report on a key is of its octets. -/
theorem isOf_of_ofBytes {k : KeyMaterial} (h : KeyMaterial.ofBytes role bs = .ok k) :
    IsOf ⟨role, k.circuit, Fingerprint.ofBytes (k.toBytes role)⟩ bs where
  isKey := KeyMaterial.exists_ofBytes_iff.mp ⟨k, h⟩
  tag_eq := by
    obtain ⟨hlength, -, htag, -, -⟩ := KeyMaterial.parts_of_ofBytes h
    rw [KeyMaterial.getElem?_tag hlength, htag]
  digest_eq := congrArg Sha256.hash (KeyMaterial.toBytes_of_ofBytes h)

theorem as?_eq_some_iff : as? role bs = some r ↔ r.role = role ∧ r.IsOf bs := by
  constructor
  · intro h
    rw [as?] at h
    split at h
    case h_1 k hk =>
      cases h
      exact ⟨rfl, isOf_of_ofBytes hk⟩
    case h_2 => cases h
  · rintro ⟨rfl, h⟩
    obtain ⟨k, hk⟩ := KeyMaterial.exists_ofBytes_iff.mpr h.isKey
    rw [h.unique (isOf_of_ofBytes hk)]
    simp only [as?, hk]

/-- **Whichever role is tried first, the report is the one that is of the octets.** -/
theorem first?_eq_some_iff (hroles : ∀ role, role ∈ roles) :
    first? roles bs = some r ↔ r.IsOf bs := by
  constructor
  · intro h
    obtain ⟨role, -, has⟩ := List.exists_of_findSome?_eq_some h
    exact (as?_eq_some_iff.mp has).2
  · intro h
    have has : as? r.role bs = some r := as?_eq_some_iff.mpr ⟨rfl, h⟩
    have hsome : (first? roles bs).isSome :=
      List.findSome?_isSome_iff.mpr ⟨r.role, hroles r.role, has ▸ rfl⟩
    obtain ⟨r', hr'⟩ := Option.isSome_iff_exists.mp hsome
    obtain ⟨role, -, has'⟩ := List.exists_of_findSome?_eq_some hr'
    rw [hr', h.unique (as?_eq_some_iff.mp has').2]

/-- Files are tried as keys for verifying first. -/
theorem ofBytes?_eq_first? : ofBytes? bs = first? [.verifying, .proving] bs := by
  rw [ofBytes?, first?, VerifyingKey.ofBytes, ProvingKey.ofBytes]
  cases hv : KeyMaterial.ofBytes .verifying bs with
  | ok k =>
    simp only [List.findSome?_cons, as?, hv]
    rfl
  | error e =>
    cases hp : KeyMaterial.ofBytes .proving bs with
    | ok k =>
      simp only [List.findSome?_cons, as?, hv, hp]
      rfl
    | error e =>
      simp only [List.findSome?_cons, List.findSome?_nil, as?, hv, hp]
      rfl

theorem ofBytes?_eq_some_iff : ofBytes? bs = some r ↔ r.IsOf bs := by
  rw [ofBytes?_eq_first?]
  refine first?_eq_some_iff fun role => ?_
  cases role <;> decide

theorem first?_eq_ofBytes? (hroles : ∀ role, role ∈ roles) : first? roles bs = ofBytes? bs :=
  Option.ext fun _ => (first?_eq_some_iff hroles).trans ofBytes?_eq_some_iff.symm

/-- **What comes of a file** that has been read, or could not be. -/
def ofRead (path : String) (octets : Except FileFault Bytes) : Except CommandError KeyReport := do
  match ofBytes? (← octets.mapError (.keyUnread path)) with
  | some report => .ok report
  | none => .error (.notAKey path)

theorem ofRead_eq_ok_iff {path : String} {octets : Except FileFault Bytes} :
    ofRead path octets = .ok r ↔ ∃ bs, octets = .ok bs ∧ r.IsOf bs := by
  simp only [ofRead, Outcome.bind_eq_ok, Outcome.mapError_eq_ok, ← ofBytes?_eq_some_iff]
  refine exists_congr fun bs => and_congr_right fun _ => ?_
  cases ofBytes? bs <;> simp

end KeyReport

section

variable {m : Type → Type} [Monad m] (h : Host m)

/-- **The report on a key file that is tried as keys of some roles**, one after the other. -/
def readKeyAs (roles : List KeyRole) (path : String) : CommandStep m KeyReport := do
  match KeyReport.first? roles (← readFile h path (.keyUnread path)) with
  | some report => return report
  | none => throw (.notAKey path)

theorem readKeyAs_eq {roles : List KeyRole} (hroles : ∀ role, role ∈ roles) (path : String) :
    readKeyAs h roles path = readKey h path := by
  rw [readKeyAs, readKey]
  refine bind_congr fun bs => ?_
  cases hreport : KeyReport.ofBytes? bs <;>
    simp only [KeyReport.first?_eq_ofBytes? hroles, hreport]

/-- A key file is read once, and what comes of it depends on what has been read and on nothing else
of the surroundings. -/
theorem run_readKey [LawfulMonad m] (path : String) :
    (readKey h path).run = KeyReport.ofRead path <$> h.read path := by
  have hlift : (liftM (h.read path) : CommandStep m _).run = Except.ok <$> h.read path := rfl
  rw [readKey, readFile]
  simp only [ofResult, ExceptT.run_bind, ExceptT.run_mk, hlift, bind_assoc, pure_bind,
    map_eq_pure_bind]
  refine bind_congr fun octets => ?_
  cases octets with
  | error fault => rfl
  | ok bs =>
    simp only [KeyReport.ofRead, Outcome.mapError_ok, Outcome.ok_bind]
    cases KeyReport.ofBytes? bs <;> rfl

end

/-- **The octets of keys.**  Octets are a key of a kind exactly if there are 73 of them, the mark of
the kind comes first and the ninth is 1 or 2.  A key is read from its octets and from no others, so
that what is read is written back as it was and what is written is read as it was, and no octets are
keys of both kinds.  The report on a key file is therefore the one that is of its octets, whichever
kind they are tried as first: it says the digest of all of them. -/
theorem key_octets :
    (KeyRole.proving.mark = Utf8.encode "zkid-pk\u0001"
        ∧ KeyRole.verifying.mark = Utf8.encode "zkid-vk\u0001")
      ∧ (∀ bs, (∃ k, ProvingKey.ofBytes bs = .ok k) ↔ KeyMaterial.IsKey .proving bs)
      ∧ (∀ bs, (∃ k, VerifyingKey.ofBytes bs = .ok k) ↔ KeyMaterial.IsKey .verifying bs)
      ∧ (∀ bs k, ProvingKey.ofBytes bs = .ok k ↔ k.toBytes = bs)
      ∧ (∀ bs k, VerifyingKey.ofBytes bs = .ok k ↔ k.toBytes = bs)
      ∧ (∀ k : ProvingKey, ProvingKey.ofBytes k.toBytes = .ok k)
      ∧ (∀ k : VerifyingKey, VerifyingKey.ofBytes k.toBytes = .ok k)
      ∧ (∀ bs pk vk, ProvingKey.ofBytes bs = .ok pk → VerifyingKey.ofBytes bs ≠ .ok vk)
      ∧ (∀ bs r, KeyReport.ofBytes? bs = some r ↔ r.IsOf bs)
      ∧ (∀ (m : Type → Type) [Monad m] (h : Host m) (roles : List KeyRole) (path : String),
        (∀ role, role ∈ roles) → readKeyAs h roles path = readKey h path)
      ∧ (∀ (m : Type → Type) [Monad m] [LawfulMonad m] (h : Host m) (path : String),
        (readKey h path).run = KeyReport.ofRead path <$> h.read path)
      ∧ ∀ path octets r,
        KeyReport.ofRead path octets = .ok r ↔ ∃ bs, octets = .ok bs ∧ r.IsOf bs := by
  have hproving (bs) (k : ProvingKey) : ProvingKey.ofBytes bs = .ok k ↔ k.toBytes = bs :=
    ProvingKey.ofBytes_eq_ok_iff.trans KeyMaterial.ofBytes_eq_ok_iff
  have hverifying (bs) (k : VerifyingKey) : VerifyingKey.ofBytes bs = .ok k ↔ k.toBytes = bs :=
    VerifyingKey.ofBytes_eq_ok_iff.trans KeyMaterial.ofBytes_eq_ok_iff
  have hdisjoint (bs pk vk) (hpk : ProvingKey.ofBytes bs = .ok pk)
      (hvk : VerifyingKey.ofBytes bs = .ok vk) : False :=
    nomatch KeyMaterial.role_eq_of_ofBytes (ProvingKey.ofBytes_eq_ok_iff.mp hpk)
      (VerifyingKey.ofBytes_eq_ok_iff.mp hvk)
  exact ⟨⟨by decide, by decide⟩, fun _ => ProvingKey.exists_ofBytes_iff,
    fun _ => VerifyingKey.exists_ofBytes_iff, hproving, hverifying,
    fun k => (hproving _ k).mpr rfl, fun k => (hverifying _ k).mpr rfl, hdisjoint,
    fun _ _ => KeyReport.ofBytes?_eq_some_iff,
    fun _ _ h _ path hroles => readKeyAs_eq h hroles path, fun _ _ _ h path => run_readKey h path,
    fun _ _ _ => KeyReport.ofRead_eq_ok_iff⟩

/-- The octets of a key for verifying ages. -/
def sampleKeyOctets : Bytes :=
  KeyMaterial.toBytes .verifying
    ⟨.age, ⟨List.replicate 32 8, by decide⟩, ⟨List.replicate 32 9, by decide⟩⟩

/-- A machine that holds one file. -/
def sampleShelf : Host Id where
  read path := if path = "age.vk" then .ok sampleKeyOctets else .error .missing
  write _ _ := .ok ()
  makeFolder _ := .ok ()
  print _ := ()
  random := Sha256.hash []
  now := 0
  setting? _ := none

/-- The octets of a key for verifying are those of no key for proving; with another ninth octet,
with one more and with one less they are no key.  The file is reported on when it is tried as a key
for proving first, too. -/
theorem key_octets_sample :
    (∃ k, VerifyingKey.ofBytes sampleKeyOctets = .ok k ∧ k.toBytes = sampleKeyOctets)
      ∧ (∀ k, ProvingKey.ofBytes sampleKeyOctets ≠ .ok k)
      ∧ (∀ bs ∈ [sampleKeyOctets.set 8 3, sampleKeyOctets ++ [0], sampleKeyOctets.dropLast],
        ¬∃ k, VerifyingKey.ofBytes bs = .ok k)
      ∧ (readKeyAs sampleShelf [.proving, .verifying] "age.vk").run
        = .ok ⟨.verifying, .age, ⟨Sha256.hash sampleKeyOctets⟩⟩ := by
  obtain ⟨-, -, hread, -, hback, -, -, hdisjoint, -, horder, hrun, hreport⟩ := key_octets
  obtain ⟨k, hk⟩ := (hread sampleKeyOctets).mpr (by decide)
  have hrefused : ∀ bs ∈ [sampleKeyOctets.set 8 3, sampleKeyOctets ++ [0],
      sampleKeyOctets.dropLast], ¬KeyMaterial.IsKey .verifying bs := by decide
  refine ⟨⟨k, hk, (hback _ _).mp hk⟩, fun pk hpk => hdisjoint _ _ _ hpk hk,
    fun bs hmem h => hrefused bs hmem ((hread bs).mp h), ?_⟩
  rw [horder Id _ _ _ fun role => by cases role <;> decide, hrun]
  exact (hreport _ _ _).mpr ⟨sampleKeyOctets, rfl, by decide, rfl, rfl⟩

end ProofLogin
