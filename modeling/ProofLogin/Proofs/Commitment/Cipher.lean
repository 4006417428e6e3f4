import Mathlib.Data.Int.GCD
import Mathlib.FieldTheory.Finite.Basic
import Mathlib.Tactic.NormNum.Prime
import ProofLogin.Commitment.Mimc
import ProofLogin.Proofs.Primality

/-!
# Proofs/Commitment/Cipher — the block cipher permutes the field

Elements are residues modulo a prime (`prime_fieldModulus`, `bijective_toZMod`), and 5 has no factor
in common with the number of residues other than zero, so that every element has exactly one fifth
root (`bijective_pow5`).  Hence each round is undone by another one, whatever its constant is
(`bijective_foldl`), and the cipher is a permutation under every key (`encrypt_permutation`).
-/

namespace ProofLogin

/-! ## The modulus is prime -/

/-- Primes that trial division finds. -/
def smallPrimes : List Nat :=
  [2, 3, 5, 7, 11, 13, 29, 83, 107, 229, 379, 661, 823, 853, 983, 1637, 3691, 4999, 11003, 93001,
    237073, 1593227]

/-- The modulus, after the larger ones of the primes that its predecessor is made of. -/
def modulusWitnesses : List Primality.Witness :=
  [⟨405928799, 22, [2, 11, 3691, 4999]⟩,
    ⟨639533339, 2, [2, 229, 853, 1637]⟩,
    ⟨12048837557, 2, [2, 2, 7, 7, 661, 93001]⟩,
    ⟨5156902474397, 2, [2, 2, 107, 12048837557]⟩,
    ⟨1670836401704629, 2, [2, 2, 3, 3, 3, 3, 5156902474397]⟩,
    ⟨65865678001877903, 5, [2, 83, 379, 1637, 639533339]⟩,
    ⟨13818364434197438864469338081, 3,
      [2, 2, 2, 2, 2, 5, 823, 1593227, 65865678001877903]⟩,
    ⟨fieldModulus, 5,
      List.replicate 28 2 ++ [3, 3, 13, 29, 983, 11003, 237073, 405928799, 1670836401704629,
        13818364434197438864469338081]⟩]

theorem prime_of_mem_smallPrimes : ∀ q ∈ smallPrimes, q.Prime := by
  simp only [smallPrimes, List.forall_mem_cons]
  norm_num

/-- **The modulus is prime.** -/
theorem prime_fieldModulus : fieldModulus.Prime := by
  have hcheck : Primality.check smallPrimes modulusWitnesses = true := by decide +kernel
  have hprime := Primality.prime_of_check prime_of_mem_smallPrimes hcheck
  exact hprime _ (List.getLast_mem (by simp [modulusWitnesses]))

instance : Fact fieldModulus.Prime := ⟨prime_fieldModulus⟩

/-! ## Powers that are permutations -/

/-- **A power permutes the residues modulo a prime** if its exponent has no factor in common with
the number of those that are not zero: what has equal powers has a quotient whose order divides
both numbers. -/
theorem bijective_pow_zmod {p n : Nat} [Fact p.Prime] (hn : n ≠ 0) (hcoprime : n.Coprime (p - 1)) :
    Function.Bijective fun x : ZMod p => x ^ n := by
  refine Finite.injective_iff_bijective.mp fun x y hxy => ?_
  have hxy : x ^ n = y ^ n := hxy
  by_cases hy : y = 0
  · subst hy
    rw [zero_pow hn] at hxy
    exact pow_eq_zero_iff hn |>.mp hxy
  · have hx : x ≠ 0 := by
      rintro rfl
      rw [zero_pow hn] at hxy
      exact hy (pow_eq_zero_iff hn |>.mp hxy.symm)
    have hquotient : (x / y) ^ n.gcd (p - 1) = 1 := by
      rw [pow_gcd_eq_one, div_pow, hxy, div_self (pow_ne_zero n hy)]
      exact ⟨rfl, ZMod.pow_card_sub_one_eq_one (div_ne_zero hx hy)⟩
    rw [hcoprime.gcd_eq_one, pow_one] at hquotient
    exact (div_eq_one_iff_eq hy).mp hquotient

namespace FieldElement

/-! ## Elements as residues -/

/-- The residue that an element is. -/
def toZMod (a : FieldElement) : ZMod fieldModulus := a.val

@[simp] theorem toZMod_ofNat (n : Nat) : (ofNat n).toZMod = n :=
  ZMod.natCast_mod n fieldModulus

@[simp] theorem toZMod_add (a b : FieldElement) : (a + b).toZMod = a.toZMod + b.toZMod :=
  (toZMod_ofNat _).trans (Nat.cast_add a.val b.val)

@[simp] theorem toZMod_mul (a b : FieldElement) : (a * b).toZMod = a.toZMod * b.toZMod :=
  (toZMod_ofNat _).trans (Nat.cast_mul a.val b.val)

/-- **Every residue is one element.** -/
theorem bijective_toZMod : Function.Bijective toZMod := by
  refine ⟨fun a b h => ?_, fun z => ⟨⟨z.val, z.val_lt⟩, ZMod.natCast_zmod_val z⟩⟩
  ext
  rw [toZMod, toZMod, ZMod.natCast_eq_natCast_iff', Nat.mod_eq_of_lt a.lt,
    Nat.mod_eq_of_lt b.lt] at h
  exact h

/-- What is a permutation of the residues is one of the elements. -/
theorem bijective_of_toZMod {f : FieldElement → FieldElement}
    {g : ZMod fieldModulus → ZMod fieldModulus} (hg : Function.Bijective g)
    (h : ∀ a, (f a).toZMod = g a.toZMod) : Function.Bijective f := by
  have hcomp : toZMod ∘ f = g ∘ toZMod := funext h
  rw [← bijective_toZMod.of_comp_iff' f, hcomp]
  exact hg.comp bijective_toZMod

theorem bijective_add_right (b : FieldElement) : Function.Bijective fun a : FieldElement => a + b :=
  bijective_of_toZMod (Equiv.addRight b.toZMod).bijective fun a => toZMod_add a b

end FieldElement

namespace Mimc

open FieldElement

/-! ## Rounds -/

theorem toZMod_pow5 (x : FieldElement) : (pow5 x).toZMod = x.toZMod ^ 5 := by
  simp only [pow5, toZMod_mul]
  ring

/-- **Every element has exactly one fifth root.** -/
theorem bijective_pow5 : Function.Bijective pow5 := by
  have hcoprime : Nat.Coprime 5 (fieldModulus - 1) := by decide +kernel
  exact bijective_of_toZMod (bijective_pow_zmod (by decide) hcoprime) toZMod_pow5

/-- **Any rounds are a permutation**, whatever their constants. -/
theorem bijective_foldl (key : FieldElement) (cs : List FieldElement) :
    Function.Bijective fun m => cs.foldl (fun r c => pow5 (r + key + c)) m := by
  induction cs with
  | nil => exact Function.bijective_id
  | cons c cs ih =>
    have hround : Function.Bijective fun r => pow5 (r + key + c) :=
      bijective_pow5.comp ((bijective_add_right c).comp (bijective_add_right key))
    exact ih.comp hround

theorem length_constantsFrom (count : Nat) (bs : Bytes) :
    (constantsFrom count bs).length = count := by
  induction count generalizing bs with
  | zero => rfl
  | succ count ih => rw [constantsFrom, List.length_cons, ih]

theorem toZMod_foldl (key m : FieldElement) (cs : List FieldElement) :
    (cs.foldl (fun r c => pow5 (r + key + c)) m).toZMod
      = (cs.map toZMod).foldl (fun r c => (r + key.toZMod + c) ^ 5) m.toZMod := by
  induction cs generalizing m with
  | nil => rfl
  | cons c cs ih =>
    rw [List.foldl_cons, ih, toZMod_pow5, toZMod_add, toZMod_add, List.map_cons, List.foldl_cons]

/-- **The block cipher is a permutation of the field under every key.**  The elements are the
residues modulo a prime; the cipher adds the key and a constant to the residue, takes its fifth
power, does so once for each of 110 constants, and adds the key; and every element is what exactly
one message is encrypted to.  So two messages have one cipher text only if they are the same. -/
theorem encrypt_permutation (key : FieldElement) :
    fieldModulus.Prime ∧ Function.Bijective toZMod
      ∧ roundConstants.length = 110
      ∧ (∀ m, (encrypt key m).toZMod
        = (roundConstants.map toZMod).foldl (fun r c => (r + key.toZMod + c) ^ 5) m.toZMod
          + key.toZMod)
      ∧ Function.Bijective (encrypt key)
      ∧ ∀ m m', encrypt key m = encrypt key m' ↔ m = m' := by
  have hbijective : Function.Bijective (encrypt key) :=
    (bijective_add_right key).comp (bijective_foldl key roundConstants)
  refine ⟨prime_fieldModulus, bijective_toZMod, length_constantsFrom roundCount _, fun m => ?_,
    hbijective, fun m m' => hbijective.injective.eq_iff⟩
  rw [encrypt, toZMod_add, toZMod_foldl]

end Mimc

end ProofLogin
