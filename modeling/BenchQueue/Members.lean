/-!
# Named values

A list of named values, and its sorted form: names in increasing order of their code points, which
is also the order of their UTF-8 bytes, and one value for a name. `find?_insert` says what a sorted
list holds after an insertion.
-/

namespace BenchQueue

/-- Values with names. -/
abbrev Members (α : Type) := List (String × α)

namespace Members

variable {α : Type}

/-- Puts a value into a sorted list; an earlier value of that name gives way. -/
def insert (name : String) (value : α) : Members α → Members α
  | [] => [(name, value)]
  | (other, old) :: rest =>
    if name = other then (name, value) :: rest
    else if name < other then (name, value) :: (other, old) :: rest
    else (other, old) :: insert name value rest

/-- The sorted form; of several values with one name the last stays. -/
def sort (members : Members α) : Members α :=
  members.foldl (fun sorted (name, value) => insert name value sorted) []

/-- The first value with a name. -/
def find? (members : Members α) (name : String) : Option α :=
  match members with
  | [] => none
  | (other, value) :: rest => if name = other then some value else find? rest name

/-- The names. -/
def names (members : Members α) : List String := members.map (·.1)

/-- After an insertion its name has the new value, and every other name has what it had. -/
theorem find?_insert (members : Members α) (name other : String) (value : α) :
    (members.insert name value).find? other =
      if other = name then some value else members.find? other := by
  induction members with
  | nil => simp [insert, find?]
  | cons head rest ih =>
    obtain ⟨first, old⟩ := head
    by_cases hname : name = first
    · subst hname
      by_cases h : other = name <;> simp [insert, find?, h]
    · by_cases hlt : name < first
      · by_cases h : other = name <;> simp [insert, find?, hname, hlt, h]
      · by_cases h : other = first
        · subst h
          simp [insert, find?, hname, hlt, Ne.symm hname]
        · simp [insert, find?, hname, hlt, h, ih]

end Members

end BenchQueue
