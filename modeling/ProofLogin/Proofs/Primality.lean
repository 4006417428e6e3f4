import Mathlib.Data.List.Prime
import Mathlib.NumberTheory.LucasPrimality

/-!
# Proofs/Primality — large primes, from the factors of their predecessors

A number is prime if some `a` has the order `n - 1` modulo `n`; that it has can be seen on the prime
factors of `n - 1`, and each of those is shown to be prime in the same way.  A list of such
witnesses, the smaller numbers first, is checked by computing powers (`check`), and every number of
a list that passes is prime (`prime_of_check`).
-/

namespace ProofLogin.Primality

/-! ## Powers -/

/-- The power modulo `n`, where the exponent has no more than `bits` binary digits. -/
def powModFrom (n : Nat) : (bits a e : Nat) → Nat
  | 0, _, _ => 1 % n
  | bits + 1, a, e =>
    let squares := powModFrom n bits (a * a % n) (e / 2)
    if e % 2 = 1 then a * squares % n else squares

/-- **The power modulo `n`**, by squaring. -/
def powMod (n a e : Nat) : Nat :=
  powModFrom n (e.log2 + 1) a e

theorem powModFrom_eq (n : Nat) {bits : Nat} (a : Nat) {e : Nat} (h : e < 2 ^ bits) :
    powModFrom n bits a e = a ^ e % n := by
  induction bits generalizing a e with
  | zero =>
    obtain rfl : e = 0 := by simpa using h
    rfl
  | succ bits ih =>
    have hhalf : e / 2 < 2 ^ bits := by
      rw [Nat.pow_succ] at h
      omega
    have hsquares : (a * a % n) ^ (e / 2) % n = a ^ (2 * (e / 2)) % n := by
      rw [← Nat.pow_mod, ← pow_two, pow_mul]
    rw [powModFrom, ih _ hhalf, hsquares]
    split
    case isTrue hodd =>
      have he : 2 * (e / 2) + 1 = e := by omega
      rw [Nat.mul_mod_mod, ← pow_succ', he]
    case isFalse heven =>
      have he : 2 * (e / 2) = e := by omega
      rw [he]

theorem powMod_eq (n a e : Nat) : powMod n a e = a ^ e % n :=
  powModFrom_eq n a Nat.lt_log2_self

/-! ## Witnesses -/

/-- **A number, what should be of the greatest order modulo it, and the prime factors of its
predecessor**, each as often as it divides it. -/
structure Witness where
  n : Nat
  a : Nat
  factors : List Nat

/-- The order of `a` modulo `n` is `n - 1`, as far as the factors tell, and they are among the
numbers known to be prime. -/
@[mk_iff] structure Witness.Checks (known : List Nat) (w : Witness) : Prop where
  mem_known : ∀ q ∈ w.factors, q ∈ known
  prod_eq : w.factors.prod = w.n - 1
  pow_eq : powMod w.n w.a (w.n - 1) = 1
  pow_ne : ∀ q ∈ w.factors, powMod w.n w.a ((w.n - 1) / q) ≠ 1

instance (known : List Nat) (w : Witness) : Decidable (w.Checks known) :=
  decidable_of_iff' _ (w.checks_iff known)

/-- **What checks is prime**: a prime that divides the product of the factors is one of them. -/
theorem Witness.Checks.prime {known : List Nat} {w : Witness} (h : w.Checks known)
    (hknown : ∀ q ∈ known, q.Prime) : w.n.Prime := by
  have hn : 1 % w.n = 1 := by rw [← h.pow_eq, powMod_eq, Nat.mod_mod]
  have hpow (e : Nat) : (w.a : ZMod w.n) ^ e = 1 ↔ powMod w.n w.a e = 1 := by
    rw [powMod_eq, ← Nat.cast_pow, ← Nat.cast_one, ZMod.natCast_eq_natCast_iff', hn]
  refine lucas_primality w.n w.a ((hpow _).mpr h.pow_eq) fun q hq hdvd => ?_
  rw [← h.prod_eq] at hdvd
  obtain ⟨r, hr, hqr⟩ := (Prime.dvd_prod_iff hq.prime).mp hdvd
  obtain rfl := (Nat.prime_dvd_prime_iff_eq hq (hknown r (h.mem_known r hr))).mp hqr
  exact (hpow _).not.mpr (h.pow_ne q hr)

/-- **Every witness checks**, where the numbers before it are known to be prime. -/
def check (known : List Nat) : List Witness → Bool
  | [] => true
  | w :: ws => w.Checks known && check (w.n :: known) ws

/-- **The numbers of a list that passes are prime.** -/
theorem prime_of_check {known : List Nat} {ws : List Witness} (hknown : ∀ q ∈ known, q.Prime)
    (h : check known ws = true) : ∀ w ∈ ws, w.n.Prime := by
  induction ws generalizing known with
  | nil => exact fun w hw => nomatch hw
  | cons w ws ih =>
    rw [check, Bool.and_eq_true, decide_eq_true_iff] at h
    have hprime := h.1.prime hknown
    exact List.forall_mem_cons.mpr
      ⟨hprime, ih (List.forall_mem_cons.mpr ⟨hprime, hknown⟩) h.2⟩

end ProofLogin.Primality
