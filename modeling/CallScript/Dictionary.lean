/-! Dictionaries that keep the order in which their keys first came. `get?` is the view through which
everything else is stated: `put` changes it at one key, `overlay` prefers its second argument. -/
namespace CallScript

structure Dictionary (α : Type) where
  entries : List (String × α)

namespace Dictionary

variable {α : Type}

def empty : Dictionary α := ⟨[]⟩

def lookupIn (key : String) : List (String × α) → Option α
  | [] => none
  | (k, v) :: rest => if k = key then some v else lookupIn key rest

def get? (d : Dictionary α) (key : String) : Option α :=
  lookupIn key d.entries

def contains (d : Dictionary α) (key : String) : Bool :=
  (d.get? key).isSome

def putIn (key : String) (value : α) : List (String × α) → List (String × α)
  | [] => [(key, value)]
  | (k, v) :: rest => if k = key then (k, value) :: rest else (k, v) :: putIn key value rest

/-- Gives a key a value, in the key's place if it had one. -/
def put (d : Dictionary α) (key : String) (value : α) : Dictionary α :=
  ⟨putIn key value d.entries⟩

def ofList (entries : List (String × α)) : Dictionary α :=
  entries.foldl (fun d entry => d.put entry.1 entry.2) empty

def overlay (lower upper : Dictionary α) : Dictionary α :=
  upper.entries.foldl (fun d entry => d.put entry.1 entry.2) lower

def keys (d : Dictionary α) : List String :=
  d.entries.map Prod.fst

def size (d : Dictionary α) : Nat :=
  d.entries.length

def sorted (d : Dictionary α) : List (String × α) :=
  d.entries.mergeSort (fun a b => decide (a.1 ≤ b.1))

theorem lookupIn_putIn (key other : String) (value : α) (entries : List (String × α)) :
    lookupIn other (putIn key value entries) = if key = other then some value else lookupIn other entries := by
  induction entries with
  | nil => simp [putIn, lookupIn]
  | cons entry rest ih =>
      obtain ⟨k, v⟩ := entry
      by_cases hk : k = key
      · subst hk
        by_cases ho : k = other <;> simp [putIn, lookupIn, ho]
      · by_cases ho : k = other
        · subst ho
          simp [putIn, lookupIn, hk, Ne.symm hk]
        · simp [putIn, lookupIn, hk, ho, ih]

theorem get?_put (d : Dictionary α) (key other : String) (value : α) :
    (d.put key value).get? other = if key = other then some value else d.get? other :=
  lookupIn_putIn key other value d.entries

end Dictionary

end CallScript
