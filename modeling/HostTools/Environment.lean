set_option autoImplicit false

namespace HostTools

def Ascending (entries : List (String × String)) : Prop :=
  entries.Pairwise fun a b => a.1 < b.1

def placeEntry (name value : String) : List (String × String) → List (String × String)
  | [] => [(name, value)]
  | entry :: rest =>
    if name < entry.1 then (name, value) :: entry :: rest
    else if name = entry.1 then (name, value) :: rest
    else entry :: placeEntry name value rest

theorem mem_place_entry {name value : String} {entries : List (String × String)}
    {entry : String × String} (member : entry ∈ placeEntry name value entries) :
    entry = (name, value) ∨ entry ∈ entries := by
  fun_induction placeEntry name value entries <;> grind

theorem ascending_place_entry (name value : String) (entries : List (String × String))
    (ascending : Ascending entries) : Ascending (placeEntry name value entries) := by
  fun_induction placeEntry name value entries with
  | case1 => simp [Ascending]
  | case2 entry rest less =>
    simp only [Ascending, List.pairwise_cons] at ascending ⊢
    refine ⟨?_, ascending⟩
    intro other member
    rcases List.mem_cons.1 member with same | later
    · exact same ▸ less
    · exact String.lt_trans less (ascending.1 other later)
  | case3 entry rest _ same =>
    simp only [Ascending, List.pairwise_cons] at ascending ⊢
    exact ⟨fun other member => same ▸ ascending.1 other member, ascending.2⟩
  | case4 entry rest notLess different ih =>
    simp only [Ascending, List.pairwise_cons] at ascending ⊢
    refine ⟨?_, ih ascending.2⟩
    intro other member
    rcases mem_place_entry member with same | later
    · subst same
      show entry.1 < name
      grind
    · exact ascending.1 other later

-- Each name stands once and in order, so two environments are equal exactly when they map every
-- name alike.
structure Environment where
  entries : List (String × String)
  ascending : Ascending entries
deriving DecidableEq

namespace Environment

def empty : Environment := ⟨[], List.Pairwise.nil⟩

def insert (environment : Environment) (name value : String) : Environment :=
  ⟨placeEntry name value environment.entries,
    ascending_place_entry name value environment.entries environment.ascending⟩

def get? (environment : Environment) (name : String) : Option String :=
  environment.entries.lookup name

-- Of several entries with one name the last counts.
def ofList (entries : List (String × String)) : Environment :=
  entries.foldl (fun environment entry => environment.insert entry.1 entry.2) empty

end Environment

end HostTools
