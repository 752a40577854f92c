/-! Tables that remember the order in which their keys were first written. -/
namespace SchemaDecls

abbrev Members (Value : Type) (Key : Type := String) := List (Key × Value)

namespace Members
variable {Key Value : Type}

def keys (table : Members Value Key) : List Key := table.map Prod.fst

def find? [DecidableEq Key] (table : Members Value Key) (key : Key) : Option Value :=
  match table with
  | [] => none
  | (k, value) :: rest => if k = key then some value else find? rest key

/-- A key written again keeps its place and takes the new value. -/
def put [DecidableEq Key] (table : Members Value Key) (key : Key) (value : Value) :
    Members Value Key :=
  match table with
  | [] => [(key, value)]
  | (k, old) :: rest => if k = key then (k, value) :: rest else (k, old) :: put rest key value

def ofPairs [DecidableEq Key] (pairs : List (Key × Value)) : Members Value Key :=
  pairs.foldl (fun table pair => table.put pair.1 pair.2) []

theorem find?_of_mem_keys [DecidableEq Key] {table : Members Value Key} {key : Key}
    (member : key ∈ table.keys) : ∃ value, table.find? key = some value := by
  induction table with
  | nil => simp [keys] at member
  | cons pair rest ih =>
    obtain ⟨k, value⟩ := pair
    by_cases same : k = key
    · exact ⟨value, by simp [find?, same]⟩
    · have later : key ∈ keys rest := by simpa [keys, Ne.symm same] using member
      obtain ⟨found, lookup⟩ := ih later
      exact ⟨found, by simp [find?, same, lookup]⟩

theorem find?_of_mem [DecidableEq Key] {table : Members Value Key}
    (distinct : table.keys.Nodup) {key : Key} {value : Value} (member : (key, value) ∈ table) :
    table.find? key = some value := by
  induction table with
  | nil => cases member
  | cons pair rest ih =>
    obtain ⟨k, first⟩ := pair
    simp only [Members.keys, List.map_cons, List.nodup_cons] at distinct
    obtain ⟨absent, restDistinct⟩ := distinct
    rcases List.mem_cons.mp member with same | later
    · cases same
      simp [Members.find?]
    · have inside : key ∈ rest.map Prod.fst := List.mem_map_of_mem (f := Prod.fst) later
      have apart : k ≠ key := by
        rintro rfl
        exact absent inside
      rw [Members.find?, if_neg apart]
      exact ih restDistinct later

theorem mem_of_find? [DecidableEq Key] {table : Members Value Key} {key : Key} {value : Value}
    (found : table.find? key = some value) : (key, value) ∈ table := by
  induction table with
  | nil => simp [find?] at found
  | cons pair rest ih =>
    obtain ⟨k, first⟩ := pair
    by_cases same : k = key
    · simp only [find?, same, if_true, Option.some.injEq] at found
      simp [same, found]
    · rw [find?, if_neg same] at found
      exact List.mem_cons_of_mem _ (ih found)

theorem find?_put [DecidableEq Key] (table : Members Value Key) (key other : Key)
    (value : Value) :
    (table.put key value).find? other = if key = other then some value else table.find? other := by
  induction table with
  | nil => simp [put, find?]
  | cons pair rest ih =>
    obtain ⟨k, old⟩ := pair
    by_cases same : k = key
    · subst same
      by_cases hit : k = other <;> simp [put, find?, hit]
    · by_cases hit : k = other
      · subst hit
        simp [put, find?, same, Ne.symm same]
      · simp [put, find?, same, hit, ih]

theorem put_put [DecidableEq Key] (table : Members Value Key) (key : Key) (first second : Value) :
    (table.put key first).put key second = table.put key second := by
  induction table with
  | nil => simp [put]
  | cons pair rest ih =>
    obtain ⟨k, old⟩ := pair
    by_cases same : k = key
    · simp [put, same]
    · simp [put, same, ih]

/-- What a key has already may be put again. -/
theorem put_of_find? [DecidableEq Key] {table : Members Value Key} {key : Key} {value : Value}
    (found : table.find? key = some value) : table.put key value = table := by
  induction table with
  | nil => simp [find?] at found
  | cons pair rest ih =>
    obtain ⟨k, old⟩ := pair
    by_cases same : k = key
    · simp only [find?, same, if_true, Option.some.injEq] at found
      simp [put, same, found]
    · rw [find?, if_neg same] at found
      simp [put, same, ih found]

/-- Two keys may be put in either order if one of them has its place already. -/
theorem put_comm [DecidableEq Key] {table : Members Value Key} {key other : Key}
    (apart : key ≠ other) (placed : key ∈ table.keys) (value another : Value) :
    (table.put key value).put other another = (table.put other another).put key value := by
  induction table with
  | nil => simp [keys] at placed
  | cons pair rest ih =>
    obtain ⟨k, old⟩ := pair
    by_cases same : k = key
    · subst same
      simp [put, apart]
    · have later : key ∈ keys rest := by simpa [keys, Ne.symm same] using placed
      by_cases hit : k = other
      · subst hit
        simp [put, same]
      · simp [put, same, hit, ih later]

theorem keys_put [DecidableEq Key] (table : Members Value Key) (key : Key) (value : Value) :
    (table.put key value).keys = if key ∈ table.keys then table.keys else table.keys ++ [key] := by
  induction table with
  | nil => simp [put, keys]
  | cons pair rest ih =>
    obtain ⟨k, old⟩ := pair
    by_cases same : k = key
    · simp [put, keys, same]
    · simp only [keys] at ih
      by_cases inside : key ∈ rest.map Prod.fst <;>
        simp_all [put, keys, Ne.symm same]

theorem nodup_keys_put [DecidableEq Key] (table : Members Value Key) (key : Key) (value : Value)
    (distinct : table.keys.Nodup) : (table.put key value).keys.Nodup := by
  rw [keys_put]
  split
  · exact distinct
  · next absent =>
    rw [List.nodup_append]
    refine ⟨distinct, by simp, ?_⟩
    intro a member b last
    rw [List.mem_singleton] at last
    subst last
    intro equal
    exact absent (equal ▸ member)

end Members
end SchemaDecls
