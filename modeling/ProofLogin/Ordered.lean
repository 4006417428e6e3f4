/-!
# Ordered — lists that are kept in order

`Ordered.sort` puts the items of a list in order by inserting them one after the other, and keeps
every one of them. `Ordered.put` keeps pairs in increasing order of their keys, each key once:
`lookup_put` says that it changes the value under its key and no other.
-/

namespace ProofLogin.Ordered

variable {α : Type}

/-! ## Any order -/

/-- An item put in front of the first one that it comes before. -/
def insert (before : α → α → Bool) (a : α) : List α → List α
  | [] => [a]
  | b :: bs => if before a b then a :: b :: bs else b :: insert before a bs

/-- **The items in order.** -/
def sort (before : α → α → Bool) (as : List α) : List α :=
  as.foldr (insert before) []

theorem insert_perm (before : α → α → Bool) (a : α) (bs : List α) :
    (insert before a bs).Perm (a :: bs) := by
  induction bs with
  | nil => exact .rfl
  | cons b bs ih =>
    rw [insert]
    split
    · exact .rfl
    · exact (ih.cons b).trans (.swap a b bs)

/-- **Nothing is lost and nothing is added.** -/
theorem sort_perm (before : α → α → Bool) (as : List α) : (sort before as).Perm as := by
  induction as with
  | nil => exact .rfl
  | cons a as ih => exact (insert_perm before a _).trans (ih.cons a)

/-! ## The order of keys -/

/-- **A value put under a key**: where the order of keys wants it, in the place of one that was
there. -/
def put (key : String) (a : α) : List (String × α) → List (String × α)
  | [] => [(key, a)]
  | (key', a') :: as =>
    if key < key' then (key, a) :: (key', a') :: as
    else if key = key' then (key, a) :: as
    else (key', a') :: put key a as

theorem lookup_put (key : String) (a : α) (as : List (String × α)) (other : String) :
    (put key a as).lookup other = if other = key then some a else as.lookup other := by
  induction as with
  | nil => grind [put]
  | cons b as ih => grind [put]

end ProofLogin.Ordered
