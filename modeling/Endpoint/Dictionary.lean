/-!
Dictionaries: entries in the order of their names, each name once. `insert` keeps both, whatever
the order in which entries are put in, and of two entries of one name the later stays.
-/
namespace Endpoint.Dictionary

/-- Puts an entry where its name belongs, in the place of an entry of the same name. -/
def insert {α : Type} (name : String) (value : α) : List (String × α) → List (String × α)
  | [] => [(name, value)]
  | (n, v) :: rest =>
    if name < n then (name, value) :: (n, v) :: rest
    else if name = n then (name, value) :: rest
    else (n, v) :: insert name value rest

/-- The dictionary of entries in any order. -/
def ofEntries {α : Type} (entries : List (String × α)) : List (String × α) :=
  entries.foldl (fun acc e => insert e.1 e.2 acc) []

def find? {α : Type} (name : String) : List (String × α) → Option α
  | [] => none
  | (n, v) :: rest => if n = name then some v else find? name rest

/-- Every entry's name comes before the names of the entries behind it. -/
def Ordered {α : Type} (entries : List (String × α)) : Prop :=
  entries.Pairwise fun a b => a.1 < b.1

/-- After an entry is put in, its name has its value and every other name the value it had. -/
theorem find?_insert {α : Type} (name key : String) (value : α) (entries : List (String × α)) :
    find? key (insert name value entries) =
      if name = key then some value else find? key entries := by
  induction entries with
  | nil => simp [insert, find?]
  | cons e rest ih =>
    simp only [insert]
    split
    · simp [find?]
    · split
      · subst name
        simp only [find?]
        split <;> rfl
      · simp only [find?, ih]
        split <;> split <;> simp_all

end Endpoint.Dictionary
