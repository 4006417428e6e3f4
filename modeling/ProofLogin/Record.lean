/-!
# Record — known members under their names

A record is read from members with names, in any order and among unknown ones, or from its members
in the order of the record. A known member may not be repeated; whether it may be missing is said by
the reader that asks for it.
-/

namespace ProofLogin.Record

variable {α : Type}

/-- A value put in the place of `key` among the known members, unless the place is taken; an unknown
member is ignored. -/
def place (key : String) (a : α) : (names : List String) → (slots : List (Option α)) →
    Option (List (Option α))
  | name :: names, slot :: slots =>
    if name = key then
      if slot.isSome then none else some (some a :: slots)
    else (place key a names slots).map (slot :: ·)
  | _, slots => some slots

/-- One more member put in its place. -/
def placeMember (names : List String) (slots : List (Option α)) (m : String × α) :
    Option (List (Option α)) :=
  place m.1 m.2 names slots

/-- **The known ones of some members**, in the order of `names`. -/
def ofMembers? (names : List String) (members : List (String × α)) : Option (List (Option α)) :=
  members.foldlM (placeMember names) (names.map fun _ => none)

/-- **Members that are listed in the order of `names`**, of which the last ones may be missing. -/
def ofItems? (names : List String) (items : List α) : Option (List (Option α)) :=
  if items.length ≤ names.length then
    some (items.map some ++ List.replicate (names.length - items.length) none)
  else none

/-- A member that must be there. -/
def required? {β : Type} (read : α → Option β) (slot : Option α) : Option β :=
  slot.bind read

/-- A member that stands for `default` where it is missing. -/
def withDefault? {β : Type} (default : β) (read : α → Option β) : Option α → Option β
  | none => some default
  | some a => read a

end ProofLogin.Record
