import ProofLogin.Commitment.Migration
import ProofLogin.Proofs.Commitment.Verified
import ProofLogin.Proofs.Json.Record

/-!
# Proofs/Commitment/Batch — a batch reports every user once, and apart from the others

    entries   e₁      e₂      …      eₙ
    reports   r₁  ++  r₂  ++  …  ++  rₙ

The report of a batch is made user by user.  One user adds what is reported of that user alone
(`MigrationReport.push_eq_append`), so that a batch is the sum of its users, in their order
(`MigrationReport.ofEntries_append`), and no user has an effect on another one.
-/

namespace ProofLogin

/-! ## Reports of one user -/

namespace MigrationReport

variable {userId : String} {result : Except CommitmentError MigrationOutcome}

/-- Two reports, the one after the other. -/
def append (r s : MigrationReport) : MigrationReport :=
  ⟨r.successful ++ s.successful, r.failed ++ s.failed⟩

instance : Append MigrationReport := ⟨append⟩

@[simp] theorem successful_append (r s : MigrationReport) :
    (r ++ s).successful = r.successful ++ s.successful := rfl

@[simp] theorem failed_append (r s : MigrationReport) :
    (r ++ s).failed = r.failed ++ s.failed := rfl

theorem append_assoc (r s t : MigrationReport) : r ++ s ++ t = r ++ (s ++ t) :=
  congrArg₂ mk (List.append_assoc ..) (List.append_assoc ..)

theorem total_append (r s : MigrationReport) : (r ++ s).total = r.total + s.total := by
  simp only [total, successful_append, failed_append, List.length_append]
  omega

/-- The report of one user. -/
def ofUser (userId : String) (result : Except CommitmentError MigrationOutcome) : MigrationReport :=
  push ⟨[], []⟩ userId result

/-- **One user more adds what is reported of that user alone.** -/
theorem push_eq_append (r : MigrationReport) :
    r.push userId result = r ++ ofUser userId result := by
  cases result with
  | ok o => exact congrArg₂ mk rfl (List.append_nil _).symm
  | error err => exact congrArg₂ mk (List.append_nil _).symm rfl

/-- A user is reported once. -/
theorem total_ofUser : (ofUser userId result).total = 1 := by
  cases result <;> rfl

/-- **A report that tells of one user only, and tells what has become of the migration**: both
commitments, or the code and the words of the error. -/
structure Tells (r : MigrationReport) (userId : String)
    (result : Except CommitmentError MigrationOutcome) : Prop where
  migrated : ∀ o, r = ⟨[⟨userId, o⟩], []⟩ ↔ result = .ok o
  failed : ∀ err, result = .error err → r = ⟨[], [⟨userId, err.code.number, err.message⟩]⟩

theorem tells_ofUser (userId : String) (result : Except CommitmentError MigrationOutcome) :
    (ofUser userId result).Tells userId result := by
  cases result with
  | ok o =>
    refine ⟨fun o' => ?_, fun err h => nomatch h⟩
    simp [ofUser, push]
  | error err =>
    refine ⟨fun o => ?_, fun err' h => ?_⟩
    · simp [ofUser, push]
    · obtain rfl := Except.error.inj h
      rfl

/-! ## Reports of a batch -/

variable (costs : MigrationCosts) (base : Policy)

/-- **What has been reported is left as it is**, and the report of the rest comes after it. -/
theorem foldl_push (run : MigrationEntry → Except CommitmentError MigrationOutcome)
    (entries : List MigrationEntry) (r : MigrationReport) :
    entries.foldl (fun r e => r.push e.userId (run e)) r
      = r ++ entries.foldl (fun r e => r.push e.userId (run e)) ⟨[], []⟩ := by
  induction entries generalizing r with
  | nil => exact congrArg₂ mk (List.append_nil _).symm (List.append_nil _).symm
  | cons e es ih =>
    rw [List.foldl_cons, List.foldl_cons, ih, push_eq_append, append_assoc, ← ofUser,
      ← ih (ofUser e.userId (run e))]

/-- **A batch after another one.** -/
theorem ofEntries_append (xs ys : List MigrationEntry) :
    ofEntries costs base (xs ++ ys) = ofEntries costs base xs ++ ofEntries costs base ys := by
  simp only [ofEntries, List.foldl_append]
  exact foldl_push _ ys _

theorem ofEntries_singleton (e : MigrationEntry) : ofEntries costs base [e]
    = ofUser e.userId (e.run { base with kdf := costs.old } { base with kdf := costs.new }) := rfl

theorem ofEntries_cons (e : MigrationEntry) (es : List MigrationEntry) :
    ofEntries costs base (e :: es) = ofEntries costs base [e] ++ ofEntries costs base es :=
  ofEntries_append costs base [e] es

/-- No user is lost, and none is reported twice. -/
theorem total_ofEntries (entries : List MigrationEntry) :
    (ofEntries costs base entries).total = entries.length := by
  induction entries with
  | nil => rfl
  | cons e es ih =>
    rw [ofEntries_cons, total_append, ih, ofEntries_singleton, total_ofUser, List.length_cons,
      Nat.add_comm]

/-- The names of one user and of none, in either list. -/
theorem sublist_ofUser (userId : String) (result : Except CommitmentError MigrationOutcome) :
    ((ofUser userId result).successful.map MigratedUser.userId).Sublist [userId]
      ∧ ((ofUser userId result).failed.map MigrationFailure.userId).Sublist [userId] := by
  cases result with
  | ok o => exact ⟨.refl _, List.nil_sublist _⟩
  | error err => exact ⟨List.nil_sublist _, .refl _⟩

/-- **The users keep the order of the batch**, also where a name comes twice. -/
theorem sublist_ofEntries (entries : List MigrationEntry) :
    ((ofEntries costs base entries).successful.map MigratedUser.userId).Sublist
        (entries.map MigrationEntry.userId)
      ∧ ((ofEntries costs base entries).failed.map MigrationFailure.userId).Sublist
        (entries.map MigrationEntry.userId) := by
  induction entries with
  | nil => exact ⟨.refl _, .refl _⟩
  | cons e es ih =>
    rw [ofEntries_cons, ofEntries_singleton, successful_append, failed_append, List.map_append,
      List.map_append]
    exact ⟨(sublist_ofUser _ _).1.append ih.1, (sublist_ofUser _ _).2.append ih.2⟩

/-- Both lists are those of the users by themselves, one after another. -/
theorem ofEntries_eq_flatMap (entries : List MigrationEntry) : ofEntries costs base entries =
    ⟨entries.flatMap fun e => (ofEntries costs base [e]).successful,
      entries.flatMap fun e => (ofEntries costs base [e]).failed⟩ := by
  induction entries with
  | nil => rfl
  | cons e es ih =>
    rw [ofEntries_cons, ih]
    rfl

/-- A user whose migration fails is reported with the code and the words of the error, wherever in
the batch. -/
theorem mem_failed_of_run {entries : List MigrationEntry} {e : MigrationEntry}
    {err : CommitmentError} (he : e ∈ entries)
    (h : e.run { base with kdf := costs.old } { base with kdf := costs.new } = .error err) :
    ⟨e.userId, err.code.number, err.message⟩ ∈ (ofEntries costs base entries).failed := by
  rw [ofEntries_eq_flatMap]
  refine List.mem_flatMap.mpr ⟨e, he, ?_⟩
  rw [ofEntries_singleton, (tells_ofUser _ _).failed err h]
  exact List.mem_singleton_self _

end MigrationReport

namespace MigrationEntry

variable {e : MigrationEntry} {old new : Policy} {expected : String}

/-- A user of whom no commitment is stored is migrated without a comparison. -/
theorem run_of_not_stored (h : e.oldCommitment = none ∨ e.oldCommitment = some "") :
    e.run old new = migrate (Utf8.encode e.secret) e.salt old new := by
  obtain h | h := h
  · rw [run, h]
  · rw [run, h]
    exact if_pos rfl

theorem run_of_stored (h : e.oldCommitment = some expected) (hne : expected ≠ "") :
    e.run old new = verifyAndMigrate (Utf8.encode e.secret) e.salt expected old new := by
  rw [run, h]
  exact if_neg hne

/-- **No commitment is stored** where an entry has no such member, or `null` for it. -/
theorem exists_record?_of_ofJson? {t : Json.Tree} (h : ofJson? t = some e) :
    ∃ userId secret salt stored, t.record? memberNames = some [userId, secret, salt, stored]
      ∧ (e.oldCommitment = none ↔ stored = none ∨ stored = some .null) := by
  obtain ⟨slots, hslots, h⟩ := Option.bind_eq_some_iff.mp h
  split at h
  case h_2 => cases h
  case h_1 =>
    simp only [Option.bind_eq_bind, Option.bind_eq_some_iff, Option.pure_def,
      Option.some.injEq] at h
    obtain ⟨_, -, _, -, _, -, _, hstored, rfl⟩ := h
    exact ⟨_, _, _, _, hslots, Json.Tree.eq_none_iff_of_withDefault? hstored⟩

end MigrationEntry

/-- **A batch reports every user once, in order, and apart from the others.**  The report of two
batches in one is the one report after the other.  Each user is counted once, and both lists are
those of the users by themselves, one after another, with their names in the order of the batch.  Of
one user it tells the outcome of the verified migration if a commitment is stored, and of the
migration without a comparison if there is none or its text is empty; a member that is missing and
`null` are none. -/
theorem MigrationReport.ofEntries_partitions (costs : MigrationCosts) (base : Policy) :
    (∀ xs ys : List MigrationEntry,
      (ofEntries costs base (xs ++ ys)).successful
          = (ofEntries costs base xs).successful ++ (ofEntries costs base ys).successful
        ∧ (ofEntries costs base (xs ++ ys)).failed
          = (ofEntries costs base xs).failed ++ (ofEntries costs base ys).failed)
      ∧ (∀ xs : List MigrationEntry,
        (ofEntries costs base xs).total = xs.length
          ∧ (ofEntries costs base xs).successful
            = xs.flatMap (fun e => (ofEntries costs base [e]).successful)
          ∧ (ofEntries costs base xs).failed
            = xs.flatMap (fun e => (ofEntries costs base [e]).failed)
          ∧ ((ofEntries costs base xs).successful.map MigratedUser.userId).Sublist
            (xs.map MigrationEntry.userId)
          ∧ ((ofEntries costs base xs).failed.map MigrationFailure.userId).Sublist
            (xs.map MigrationEntry.userId))
      ∧ (∀ e : MigrationEntry, e.oldCommitment = none ∨ e.oldCommitment = some "" →
        (ofEntries costs base [e]).Tells e.userId (migrate (Utf8.encode e.secret) e.salt
          { base with kdf := costs.old } { base with kdf := costs.new }))
      ∧ (∀ (e : MigrationEntry) (expected : String),
        e.oldCommitment = some expected → expected ≠ "" →
        (ofEntries costs base [e]).Tells e.userId (verifyAndMigrate (Utf8.encode e.secret) e.salt
          expected { base with kdf := costs.old } { base with kdf := costs.new }))
      ∧ ∀ (t : Json.Tree) (e : MigrationEntry), MigrationEntry.ofJson? t = some e →
        ∃ userId secret salt stored,
          t.record? MigrationEntry.memberNames = some [userId, secret, salt, stored]
            ∧ (e.oldCommitment = none ↔ stored = none ∨ stored = some .null) := by
  refine ⟨fun xs ys => ?_, fun xs => ?_, fun e h => ?_, fun e expected h hne => ?_, fun t e h => ?_⟩
  · rw [ofEntries_append]
    exact ⟨rfl, rfl⟩
  · have horder := ofEntries_eq_flatMap costs base xs
    exact ⟨total_ofEntries costs base xs, congrArg successful horder, congrArg failed horder,
      sublist_ofEntries costs base xs⟩
  · rw [ofEntries_singleton, MigrationEntry.run_of_not_stored h]
    exact tells_ofUser _ _
  · rw [ofEntries_singleton, MigrationEntry.run_of_stored h hne]
    exact tells_ofUser _ _
  · exact MigrationEntry.exists_record?_of_ofJson? h

/-- Three users of whom two have one name: with nothing stored, with an empty text and no salt, and
with a text that no commitment has. -/
def MigrationEntry.samples : List MigrationEntry := [
  ⟨"alice", "pw", "000102030405ABCD", none⟩,
  ⟨"alice", "pw", "ABC", some ""⟩,
  ⟨"bob", "pw", "000102030405ABCD", some "007"⟩]

/-- One user is migrated and two are not, and so it is again when the batch is run twice in one. -/
theorem MigrationReport.ofEntries_partitions_sample : ∃ o,
    ofEntries .default .default MigrationEntry.samples = ⟨[⟨"alice", o⟩], [
      ⟨"alice", "E1005", "salt decode failed: Odd number of digits"⟩,
      ⟨"bob", "E1002", "commitment parse failed: not a field element: \"007\""⟩]⟩
      ∧ (ofEntries .default .default (MigrationEntry.samples ++ MigrationEntry.samples)).successful
        = [⟨"alice", o⟩, ⟨"alice", o⟩]
      ∧ (ofEntries .default .default MigrationEntry.samples).total = 3 := by
  obtain ⟨happend, hlists, hmigrate, hverify, -⟩ := ofEntries_partitions .default .default
  let salt : Salt := ⟨[0, 1, 2, 3, 4, 5, 0xAB, 0xCD], by decide⟩
  have hsalt (s : Salt) (h : Salt.ofHex "000102030405ABCD" = .ok s) :
      s.octets.length < 0x100000000 := s.length_octets_lt h (by decide)
  have hcommit (cost : KdfCost) (hcost : cost.validate = .ok ()) :
      Commitment.commit (Utf8.encode "pw") "000102030405ABCD" (.sampleAt cost)
        = .ok (Commitment.valueAt cost (Utf8.encode "pw") salt) :=
    (Commitment.commit_eq_ok_iff (by decide) hsalt).mpr ⟨salt, rfl, hcost, rfl⟩
  obtain ⟨o, ho⟩ : ∃ o, migrate (Utf8.encode "pw") "000102030405ABCD" (.sampleAt ⟨65536, 1⟩)
      (.sampleAt ⟨65536, 3⟩) = .ok o :=
    ⟨⟨_, _⟩, migrate_eq_ok_iff.mpr ⟨hcommit _ rfl, hcommit _ rfl⟩⟩
  have h₁ := ((hmigrate ⟨"alice", "pw", "000102030405ABCD", none⟩ (.inl rfl)).migrated o).mpr ho
  have h₂ := (hmigrate ⟨"alice", "pw", "ABC", some ""⟩ (.inr rfl)).failed _ rfl
  have h₃ := (hverify ⟨"bob", "pw", "000102030405ABCD", some "007"⟩ "007" rfl (by decide)).failed _
    rfl
  have hreport : ofEntries .default .default MigrationEntry.samples = ⟨[⟨"alice", o⟩], [
      ⟨"alice", "E1005", "salt decode failed: Odd number of digits"⟩,
      ⟨"bob", "E1002", "commitment parse failed: not a field element: \"007\""⟩]⟩ := by
    rw [ofEntries_eq_flatMap]
    simp only [MigrationEntry.samples, List.flatMap_cons, List.flatMap_nil, h₁, h₂, h₃]
    rfl
  refine ⟨o, hreport, ?_, (hlists MigrationEntry.samples).1⟩
  rw [(happend _ _).1, hreport]
  rfl

end ProofLogin
