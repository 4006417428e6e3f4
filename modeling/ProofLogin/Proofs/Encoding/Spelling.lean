import ProofLogin.Proofs.Commitment.Salt
import ProofLogin.Proofs.Fingerprint

/-!
# Proofs/Encoding/Spelling — salts and names of keys, and all of their spellings

    blanks, digits of either case, blanks  ──ofHex──▸  salt, name  ──toHex──▸  lower-case digits

A salt and a name have one text that is written and many that are read.  `hex_grammar` says that
these differ from the written one in the blanks around them and in the case of their digits, and in
nothing else: neither in blanks between the digits nor in digits of another script.
-/

namespace ProofLogin

theorem Hex.isBlank_of_isDigit {c : Char} (h : IsDigit c) : Text.isBlank c = false := by
  have hall : "0123456789abcdefABCDEF".toList.all fun c => !Text.isBlank c := by decide
  exact (Bool.not_eq_true' _).mp (List.all_eq_true.mp hall c h)

/-- Where the spellings of a value are its text but for blanks and case, and values are told apart
by their texts, they are told apart by their spellings. -/
theorem eq_iff_toLower_trim {α ε : Type} {read : String → Except ε α} {write : α → String}
    {IsSpelling : String → Prop} (hwrite : Function.Injective write)
    (hread : ∀ s a, read s = .ok a ↔ IsSpelling s ∧ (Text.trim s).toLower = write a)
    {s t : String} {a b : α} (hs : read s = .ok a) (ht : read t = .ok b) :
    a = b ↔ (Text.trim s).toLower = (Text.trim t).toLower := by
  rw [((hread s a).mp hs).2, ((hread t b).mp ht).2, hwrite.eq_iff]

/-- **The texts of salts and of names.**  A text spells a salt exactly if, without the blanks around
it, it is an even number of hexadecimal digits, 16 of them at least, and the salt is the one whose
text these are in lower case; it spells a name exactly if it is 64 digits, in the same way.  So what
is written is read back, and two spellings are of one value exactly if they are equal without blanks
around them and in lower case.  What is left of a text without the blanks around it is digits
exactly if the text is these digits with blanks on both sides. -/
theorem hex_grammar :
    (∀ s salt, Salt.ofHex s = .ok salt ↔
        Salt.IsSpelling s ∧ (Text.trim s).toLower = salt.toHex)
      ∧ (∀ s name, Fingerprint.ofHex s = .ok name ↔
        Fingerprint.IsSpelling s ∧ (Text.trim s).toLower = name.toHex)
      ∧ (∀ s, (∃ salt, Salt.ofHex s = .ok salt) ↔ Salt.IsSpelling s)
      ∧ (∀ s, (∃ name, Fingerprint.ofHex s = .ok name) ↔ Fingerprint.IsSpelling s)
      ∧ (∀ salt : Salt, Salt.ofHex salt.toHex = .ok salt)
      ∧ (∀ name : Fingerprint, Fingerprint.ofHex name.toHex = .ok name)
      ∧ (∀ s t salt salt', Salt.ofHex s = .ok salt → Salt.ofHex t = .ok salt' →
        (salt = salt' ↔ (Text.trim s).toLower = (Text.trim t).toLower))
      ∧ (∀ s t name name', Fingerprint.ofHex s = .ok name → Fingerprint.ofHex t = .ok name' →
        (name = name' ↔ (Text.trim s).toLower = (Text.trim t).toLower))
      ∧ ∀ s digits : String, (∀ c ∈ digits.toList, Hex.IsDigit c) →
        (Text.trim s = digits ↔ ∃ before after : String,
          (∀ c ∈ before.toList, Text.isBlank c = true)
          ∧ (∀ c ∈ after.toList, Text.isBlank c = true) ∧ s = before ++ digits ++ after) := by
  have hsalt (s salt) : Salt.ofHex s = .ok salt ↔
      Salt.IsSpelling s ∧ (Text.trim s).toLower = salt.toHex := Salt.ofHex_eq_ok_iff_toHex
  have hname (s name) : Fingerprint.ofHex s = .ok name ↔
      Fingerprint.IsSpelling s ∧ (Text.trim s).toLower = name.toHex :=
    Fingerprint.ofHex_eq_ok_iff_toHex
  exact ⟨hsalt, hname, fun _ => Salt.exists_ofHex_iff, fun _ => Fingerprint.exists_ofHex_iff,
    Salt.ofHex_toHex, Fingerprint.ofHex_toHex,
    fun _ _ _ _ => eq_iff_toLower_trim Salt.toHex_injective hsalt,
    fun _ _ _ _ => eq_iff_toLower_trim Fingerprint.toHex_injective hname,
    fun _ _ hdigits => Text.trim_eq_iff fun c hc => Hex.isBlank_of_isDigit (hdigits c hc)⟩

/-- Two spellings are of one salt, and a name is read with blanks around it.  A blank between the
digits, a mark of no width, an odd number of digits and too few of them are refused, and so is a
name of 63 characters of which one has two octets. -/
theorem hex_grammar_sample :
    (∃ salt, Salt.ofHex "\u3000\t00010203AAbbCCdd\n" = .ok salt
        ∧ Salt.ofHex "00010203aAbBcCdD" = .ok salt ∧ salt.toHex = "00010203aabbccdd")
      ∧ (∀ name : Fingerprint, Fingerprint.ofHex ("\u3000" ++ name.toHex ++ "\u0085") = .ok name)
      ∧ (∀ s ∈ ["0001020 3AAbbCCdd", "\uFEFF00010203AAbbCCdd", "00010203AAbbCCd", "00010203AAbbCC"],
        ¬∃ salt, Salt.ofHex s = .ok salt)
      ∧ ¬∃ name, Fingerprint.ofHex (String.ofList ('é' :: List.replicate 62 'A')) = .ok name := by
  obtain ⟨hsalt, -, hsalts, hnames, -, hback, hsame, hsame', htrim⟩ := hex_grammar
  have hlower {s t : String} (h : s.toList.map Char.toLower = t.toList.map Char.toLower) :
      s.toLower = t.toLower := by
    rwa [← String.toList_inj, Hex.toList_toLower, Hex.toList_toLower]
  obtain ⟨salt, hs⟩ := (hsalts "\u3000\t00010203AAbbCCdd\n").mpr (by decide)
  obtain ⟨salt', ht⟩ := (hsalts "00010203aAbBcCdD").mpr (by decide)
  obtain rfl := (hsame _ _ _ _ hs ht).mpr (hlower (by decide))
  have hwritten : salt.toHex = "00010203aabbccdd" := by
    rw [← ((hsalt _ _).mp ht).2, ← String.toList_inj, Hex.toList_toLower]
    decide
  have hrefused : ∀ s ∈ ["0001020 3AAbbCCdd", "\uFEFF00010203AAbbCCdd", "00010203AAbbCCd",
      "00010203AAbbCC"], ¬Salt.IsSpelling s := by decide +kernel
  refine ⟨⟨salt, hs, ht, hwritten⟩, fun name => ?_,
    fun s hmem h => hrefused s hmem ((hsalts s).mp h), fun h => ?_⟩
  · have hspelling := (hnames _).mp ⟨name, hback name⟩
    have hdigits : Text.trim name.toHex = name.toHex := Hex.trim_encode _
    have hblanks : Text.trim ("\u3000" ++ name.toHex ++ "\u0085") = Text.trim name.toHex := by
      rw [hdigits]
      exact (htrim _ _ (hdigits ▸ hspelling.isDigit)).mpr
        ⟨"\u3000", "\u0085", List.all_eq_true.mp (by decide), List.all_eq_true.mp (by decide), rfl⟩
    obtain ⟨name', hname⟩ := (hnames ("\u3000" ++ name.toHex ++ "\u0085")).mpr
      ⟨by rw [hblanks]; exact hspelling.isDigit, by rw [hblanks]; exact hspelling.length_eq⟩
    obtain rfl := (hsame' _ _ _ _ hname (hback name)).mpr (by rw [hblanks])
    exact hname
  · exact absurd ((hnames _).mp h).length_eq (by decide)

end ProofLogin
