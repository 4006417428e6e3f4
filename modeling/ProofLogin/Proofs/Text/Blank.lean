import Mathlib.Data.List.DropRight
import ProofLogin.Text.Blank

/-!
# Proofs/Text/Blank — what trimming takes off

A text without blanks is not trimmed, and it is what is left of a text exactly if there are blanks
around it (`trim_eq_iff`).  What is left of a text is not trimmed again (`trim_trim`), whatever
blanks stand inside of it.
-/

namespace ProofLogin.Text

theorem isBlank_of_isDigit {c : Char} (h : c.isDigit = true) : isBlank c = false := by
  have hn := Char.isDigit_iff_toNat.mp h
  rw [Bool.eq_false_iff]
  intro hblank
  simp only [isBlank, Char.reduceToNat, Bool.or_eq_true, Bool.and_eq_true, decide_eq_true_eq,
    beq_iff_eq] at hn hblank
  omega

theorem dropWhile_isBlank {cs : List Char} (h : ∀ c ∈ cs, isBlank c = false) :
    cs.dropWhile isBlank = cs := by
  cases cs with
  | nil => rfl
  | cons c cs => rw [List.dropWhile_cons_of_neg (by simp [h c])]

/-- **A text without blanks stays as it is.** -/
theorem trim_of_forall {s : String} (h : ∀ c ∈ s.toList, isBlank c = false) : trim s = s := by
  have hr : ∀ c ∈ s.toList.reverse, isBlank c = false := fun c hc => h c (List.mem_reverse.mp hc)
  rw [trim, trimChars, dropWhile_isBlank h, dropWhile_isBlank hr, List.reverse_reverse,
    String.ofList_toList]

theorem dropWhile_eq_nil {cs : List Char} (h : ∀ c ∈ cs, isBlank c = true) :
    cs.dropWhile isBlank = [] := by
  rw [← List.append_nil cs, List.dropWhile_append_of_pos h, List.dropWhile_nil]

/-- Nothing but blanks is taken off. -/
theorem exists_trimChars (cs : List Char) : ∃ before after,
    (∀ c ∈ before, isBlank c = true) ∧ (∀ c ∈ after, isBlank c = true)
      ∧ cs = before ++ trimChars cs ++ after := by
  let rest := cs.dropWhile isBlank
  have hblank (cs : List Char) : ∀ c ∈ cs.takeWhile isBlank, isBlank c = true :=
    List.all_eq_true.mp List.all_takeWhile
  refine ⟨cs.takeWhile isBlank, (rest.reverse.takeWhile isBlank).reverse, hblank cs,
    fun c hc => hblank _ c (List.mem_reverse.mp hc), ?_⟩
  rw [trimChars, List.append_assoc, ← List.reverse_append, List.takeWhile_append_dropWhile,
    List.reverse_reverse, List.takeWhile_append_dropWhile]

/-- All of the blanks are taken off. -/
theorem trimChars_append {before cs after : List Char} (hbefore : ∀ c ∈ before, isBlank c = true)
    (hcs : ∀ c ∈ cs, isBlank c = false) (hafter : ∀ c ∈ after, isBlank c = true) :
    trimChars (before ++ cs ++ after) = cs := by
  cases cs with
  | nil =>
    have hall : ∀ c ∈ before ++ [] ++ after, isBlank c = true := by
      simpa [or_imp, forall_and] using ⟨hbefore, hafter⟩
    rw [trimChars, dropWhile_eq_nil hall]
    rfl
  | cons c cs =>
    have hc : ¬isBlank c = true := by simp [hcs c]
    have hreverse : ∀ d ∈ (c :: cs).reverse, isBlank d = false := fun d hd =>
      hcs d (List.mem_reverse.mp hd)
    rw [trimChars, List.append_assoc, List.dropWhile_append_of_pos hbefore, List.cons_append,
      List.dropWhile_cons_of_neg hc, ← List.cons_append, List.reverse_append,
      List.dropWhile_append_of_pos fun d hd => hafter d (List.mem_reverse.mp hd),
      dropWhile_isBlank hreverse, List.reverse_reverse]

/-- **A text without blanks is what is left exactly if there are blanks around it.** -/
theorem trim_eq_iff {s t : String} (ht : ∀ c ∈ t.toList, isBlank c = false) :
    trim s = t ↔ ∃ before after : String, (∀ c ∈ before.toList, isBlank c = true)
      ∧ (∀ c ∈ after.toList, isBlank c = true) ∧ s = before ++ t ++ after := by
  constructor
  · rintro rfl
    obtain ⟨before, after, hbefore, hafter, hs⟩ := exists_trimChars s.toList
    refine ⟨String.ofList before, String.ofList after, by rwa [String.toList_ofList],
      by rwa [String.toList_ofList], ?_⟩
    rw [← String.toList_inj, String.toList_append, String.toList_append, trim,
      String.toList_ofList, String.toList_ofList, String.toList_ofList, ← hs]
  · rintro ⟨before, after, hbefore, hafter, rfl⟩
    rw [trim, String.toList_append, String.toList_append, trimChars_append hbefore ht hafter,
      String.ofList_toList]

/-- **Nothing is taken off twice**: what is left begins as the text without the blanks in front,
which begins with no blank. -/
theorem trim_trim (s : String) : trim (trim s) = trim s := by
  let rest := s.toList.dropWhile isBlank
  have htrim : trimChars s.toList = rest.rdropWhile isBlank := rfl
  have hfront : (trimChars s.toList).dropWhile isBlank = trimChars s.toList := by
    refine List.dropWhile_eq_self_iff.mpr fun hpos => ?_
    have hfirst : trimChars s.toList <+: rest := List.rdropWhile_prefix isBlank rest
    rw [hfirst.getElem hpos]
    exact List.dropWhile_eq_self_iff.mp (List.dropWhile_idempotent isBlank s.toList)
      (Nat.lt_of_lt_of_le hpos hfirst.length_le)
  have hagain : trimChars (trimChars s.toList) = trimChars s.toList := by
    change ((trimChars s.toList).dropWhile isBlank).rdropWhile isBlank = _
    rw [hfront, htrim, List.rdropWhile_idempotent]
  rw [trim, trim, String.toList_ofList, hagain]

end ProofLogin.Text
