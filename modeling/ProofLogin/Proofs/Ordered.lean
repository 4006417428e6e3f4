import ProofLogin.Ordered

/-!
# Proofs/Ordered — sorting and renaming, looking up in a list of pairs, and putting pairs in it

`sort_map` sorts before or after a renaming that keeps the order.  Where of two items one comes
before the other, there is one sorted list of them (`eq_of_perm_of_sorted`), and that is what
sorting makes of any list of them (`sort_of_perm`).  `lookup_of_perm` says that the order of a list
of pairs does not matter to a look-up, where no key is repeated.

Pairs with increasing keys are determined by what they are (`Increasing.eq_of_perm`). Putting one
pair after the other leaves the keys increasing (`increasing_foldl_put`), so that pairs in any order
are put into that one order (`foldl_put_of_perm`).
-/

namespace ProofLogin.Ordered

variable {α β : Type}

theorem insert_map {before : α → α → Bool} {before' : β → β → Bool} (f : α → β)
    (h : ∀ a b, before' (f a) (f b) = before a b) (a : α) (bs : List α) :
    insert before' (f a) (bs.map f) = (insert before a bs).map f := by
  induction bs with
  | nil => rfl
  | cons b bs ih =>
    simp only [List.map_cons, insert, h]
    split
    · rfl
    · rw [ih, List.map_cons]

/-- **A renaming that keeps the order may be done before the sorting or after it.** -/
theorem sort_map {before : α → α → Bool} {before' : β → β → Bool} (f : α → β)
    (h : ∀ a b, before' (f a) (f b) = before a b) (as : List α) :
    sort before' (as.map f) = (sort before as).map f := by
  induction as with
  | nil => rfl
  | cons a as ih =>
    change insert before' (f a) (sort before' (as.map f)) = _
    rw [ih, insert_map f h]
    rfl

/-! ## The one sorted list -/

section Strict

variable {before : α → α → Bool} {as bs : List α} {a : α}
  (hasymm : ∀ {a b}, before a b = true → before b a = false)
  (htrans : ∀ {a b c}, before a b = true → before b c = true → before a c = true)

include htrans in
theorem pairwise_insert (hbs : bs.Pairwise fun b c => before b c = true)
    (ha : ∀ b ∈ bs, before a b = true ∨ before b a = true) :
    (insert before a bs).Pairwise fun b c => before b c = true := by
  induction bs with
  | nil => exact List.pairwise_singleton _ a
  | cons b bs ih =>
    obtain ⟨hb, hbs⟩ := List.pairwise_cons.mp hbs
    rw [insert]
    split
    case isTrue hab =>
      refine List.pairwise_cons.mpr ⟨fun c hc => ?_, List.pairwise_cons.mpr ⟨hb, hbs⟩⟩
      obtain rfl | hc := List.mem_cons.mp hc
      · exact hab
      · exact htrans hab (hb c hc)
    case isFalse hab =>
      have hba := (ha b List.mem_cons_self).resolve_left hab
      have hrest := ih hbs fun c hc => ha c (List.mem_cons_of_mem _ hc)
      refine List.pairwise_cons.mpr ⟨fun c hc => ?_, hrest⟩
      obtain rfl | hc := List.mem_cons.mp ((insert_perm before a bs).subset hc)
      · exact hba
      · exact hb c hc

include htrans in
/-- **A sorted list is sorted**, if of two items one comes before the other. -/
theorem pairwise_sort (htotal : as.Pairwise fun a b => before a b = true ∨ before b a = true) :
    (sort before as).Pairwise fun a b => before a b = true := by
  induction as with
  | nil => exact .nil
  | cons a as ih =>
    obtain ⟨ha, has⟩ := List.pairwise_cons.mp htotal
    exact pairwise_insert htrans (ih has) fun b hb => ha b ((sort_perm before as).subset hb)

include hasymm in
/-- **There is one sorted list** of the same items. -/
theorem eq_of_perm_of_sorted (has : as.Pairwise fun a b => before a b = true)
    (hbs : bs.Pairwise fun a b => before a b = true) (h : as.Perm bs) : as = bs := by
  refine h.eq_of_pairwise (fun a b _ _ hab hba => ?_) has hbs
  rw [hasymm hab] at hba
  cases hba

include hasymm htrans in
/-- **The order in which the items come does not matter to the sorted list.** -/
theorem sort_of_perm (htotal : as.Pairwise fun a b => before a b = true ∨ before b a = true)
    (h : as.Perm bs) : sort before as = sort before bs := by
  have htotal' : bs.Pairwise fun a b => before a b = true ∨ before b a = true :=
    (h.pairwise_iff Or.symm).mp htotal
  exact eq_of_perm_of_sorted hasymm (pairwise_sort htrans htotal) (pairwise_sort htrans htotal')
    ((sort_perm before as).trans (h.trans (sort_perm before bs).symm))

end Strict

/-! ## Looking up -/

theorem mem_of_lookup [BEq α] [LawfulBEq α] {k : α} {b : β} {ps : List (α × β)}
    (h : ps.lookup k = some b) : (k, b) ∈ ps := by
  induction ps with
  | nil => cases h
  | cons p ps ih =>
    obtain ⟨k', b'⟩ := p
    rw [List.lookup_cons] at h
    split at h
    case h_1 hk =>
      obtain rfl := eq_of_beq hk
      cases h
      exact List.mem_cons_self
    case h_2 => exact List.mem_cons_of_mem _ (ih h)

/-- A pair of a list without repeated keys is found under its key. -/
theorem lookup_of_mem [BEq α] [LawfulBEq α] {k : α} {b : β} {ps : List (α × β)}
    (hn : (ps.map Prod.fst).Nodup) (h : (k, b) ∈ ps) : ps.lookup k = some b := by
  induction ps with
  | nil => cases h
  | cons p ps ih =>
    obtain ⟨k', b'⟩ := p
    rw [List.map_cons, List.nodup_cons] at hn
    rw [List.lookup_cons]
    rcases List.mem_cons.mp h with heq | hmem
    · obtain ⟨rfl, rfl⟩ := Prod.mk.inj heq
      rw [beq_self_eq_true]
    · have hne : (k == k') = false := by
        rw [beq_eq_false_iff_ne]
        rintro rfl
        exact hn.1 (List.mem_map.mpr ⟨(k, b), hmem, rfl⟩)
      rw [hne]
      exact ih hn.2 hmem

/-- Pairs under one key are not needed to look up another one. -/
theorem lookup_filter_ne [DecidableEq α] {k k' : α} (h : k' ≠ k)
    (ps : List (α × β)) : (ps.filter fun (a, _) => a ≠ k).lookup k' = ps.lookup k' := by
  induction ps with
  | nil => rfl
  | cons p ps ih =>
    obtain ⟨a, b⟩ := p
    rw [List.filter_cons, List.lookup_cons]
    by_cases ha : a = k
    · subst ha
      rw [if_neg (by simp), beq_eq_false_iff_ne.mpr h, ih]
    · rw [if_pos (decide_eq_true ha), List.lookup_cons, ih]

/-- **The order of the pairs does not matter to a look-up**, where no key is repeated. -/
theorem lookup_of_perm [BEq α] [LawfulBEq α] {ps qs : List (α × β)} (h : ps.Perm qs)
    (hn : (ps.map Prod.fst).Nodup) (k : α) : ps.lookup k = qs.lookup k := by
  have hn' : (qs.map Prod.fst).Nodup := (h.map Prod.fst).nodup_iff.mp hn
  refine Option.ext fun b => ⟨fun hb => ?_, fun hb => ?_⟩
  · exact lookup_of_mem hn' (h.subset (mem_of_lookup hb))
  · exact lookup_of_mem hn (h.symm.subset (mem_of_lookup hb))

/-! ## Pairs with increasing keys -/

/-- **The keys increase**, so that none is repeated. -/
def Increasing (ps : List (String × α)) : Prop :=
  ps.Pairwise fun p q => p.1 < q.1

variable {ps qs : List (String × α)} {k : String} {a : α}

theorem Increasing.nodup (h : Increasing ps) : (ps.map Prod.fst).Nodup := by
  refine (List.pairwise_map.mpr h).imp fun hlt heq => ?_
  exact String.lt_irrefl _ (heq ▸ hlt)

/-- **The order of pairs with increasing keys is no choice.** -/
theorem Increasing.eq_of_perm (hp : Increasing ps) (hq : Increasing qs) (h : ps.Perm qs) :
    ps = qs :=
  h.eq_of_pairwise (fun _ _ _ _ hlt hlt' => absurd hlt' (String.lt_asymm hlt)) hp hq

theorem eq_or_mem_of_mem_put {p : String × α} (h : p ∈ put k a ps) : p = (k, a) ∨ p ∈ ps := by
  induction ps with
  | nil => exact .inl (List.mem_singleton.mp h)
  | cons q ps ih =>
    obtain ⟨k', a'⟩ := q
    rw [put] at h
    split at h
    · exact List.mem_cons.mp h
    · split at h
      · exact (List.mem_cons.mp h).imp_right (List.mem_cons_of_mem _)
      · obtain rfl | h := List.mem_cons.mp h
        · exact .inr List.mem_cons_self
        · exact (ih h).imp_right (List.mem_cons_of_mem _)

/-- **A pair that is put leaves the keys increasing.** -/
theorem Increasing.put (h : Increasing ps) (k : String) (a : α) : Increasing (put k a ps) := by
  induction ps with
  | nil => exact List.pairwise_singleton _ _
  | cons q ps ih =>
    obtain ⟨k', a'⟩ := q
    obtain ⟨hfirst, hrest⟩ := List.pairwise_cons.mp h
    rw [Ordered.put]
    split
    case isTrue hlt =>
      refine List.pairwise_cons.mpr ⟨fun p hp => ?_, h⟩
      obtain rfl | hp := List.mem_cons.mp hp
      · exact hlt
      · exact String.lt_trans hlt (hfirst p hp)
    case isFalse hnot =>
      split
      case isTrue heq =>
        subst heq
        exact List.pairwise_cons.mpr ⟨hfirst, hrest⟩
      case isFalse hne =>
        refine List.pairwise_cons.mpr ⟨fun p hp => ?_, ih hrest⟩
        obtain rfl | hp := eq_or_mem_of_mem_put hp
        · exact (Std.lt_trichotomy k k').resolve_left hnot |>.resolve_left hne
        · exact hfirst p hp

/-- Nothing is replaced by a new key. -/
theorem put_perm (hk : k ∉ ps.map Prod.fst) (a : α) : (put k a ps).Perm ((k, a) :: ps) := by
  induction ps with
  | nil => exact .rfl
  | cons q ps ih =>
    obtain ⟨k', a'⟩ := q
    obtain ⟨hne, hk⟩ : k ≠ k' ∧ k ∉ ps.map Prod.fst := by
      rw [List.map_cons, List.mem_cons] at hk
      exact not_or.mp hk
    rw [put, if_neg hne]
    split
    · exact .rfl
    · exact ((ih hk).cons _).trans (.swap _ _ _)

theorem mem_of_mem_foldl_put {p : String × α}
    (h : p ∈ qs.foldl (fun sorted (k, a) => put k a sorted) ps) : p ∈ qs ∨ p ∈ ps := by
  induction qs generalizing ps with
  | nil => exact .inr h
  | cons q qs ih =>
    obtain h | h := ih h
    · exact .inl (List.mem_cons_of_mem _ h)
    · refine (eq_or_mem_of_mem_put h).imp_left fun heq => ?_
      rw [heq]
      exact List.mem_cons_self

theorem increasing_foldl_put (hp : Increasing ps) (qs : List (String × α)) :
    Increasing (qs.foldl (fun sorted (k, a) => put k a sorted) ps) := by
  induction qs generalizing ps with
  | nil => exact hp
  | cons q qs ih => exact ih (hp.put q.1 q.2)

theorem foldl_put_perm (hn : ((qs ++ ps).map Prod.fst).Nodup) :
    (qs.foldl (fun sorted (k, a) => put k a sorted) ps).Perm (qs ++ ps) := by
  induction qs generalizing ps with
  | nil => exact .rfl
  | cons q qs ih =>
    obtain ⟨k, a⟩ := q
    have hmove : ((k, a) :: qs ++ ps).Perm (qs ++ (k, a) :: ps) := List.perm_middle.symm
    have hn' : ((qs ++ (k, a) :: ps).map Prod.fst).Nodup := (hmove.map Prod.fst).nodup_iff.mp hn
    have hk : k ∉ ps.map Prod.fst := by
      rw [List.map_append, List.map_cons] at hn'
      exact (List.nodup_cons.mp (List.nodup_append.mp hn').2.1).1
    have hput : (qs ++ put k a ps).Perm (qs ++ (k, a) :: ps) := (put_perm hk a).append_left qs
    exact ((ih ((hput.map Prod.fst).nodup_iff.mpr hn')).trans hput).trans hmove.symm

/-- **Pairs in any order are put into the increasing one.** -/
theorem foldl_put_of_perm (hp : Increasing ps) (h : qs.Perm ps) :
    qs.foldl (fun sorted (k, a) => put k a sorted) [] = ps := by
  have hn : ((qs ++ []).map Prod.fst).Nodup := by
    rw [List.append_nil]
    exact (h.map Prod.fst).nodup_iff.mpr hp.nodup
  have hperm := foldl_put_perm hn
  rw [List.append_nil] at hperm
  exact (increasing_foldl_put .nil qs).eq_of_perm hp (hperm.trans h)

end ProofLogin.Ordered
