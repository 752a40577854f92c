import SchemaDecls.Pointer
import SchemaDecls.Written

/-! Resolving references against the schema table of their document. A reference takes the type,
title and items of the entry that its chain of references ends at, never its properties. A chain
that leaves the table is taken for an object; one that comes back on itself has no type. -/
namespace SchemaDecls

/-- The entry of the table that a locator addresses. -/
def target? (table : Members WrittenSchema) (locator : String) : Option (String × WrittenSchema) :=
  if Pointer.isLocal locator then
    (Pointer.componentName? locator).bind fun name =>
      (table.find? name).map fun target => (name, target)
  else none

namespace WrittenSchema

def schemaType (written : WrittenSchema) : Option SchemaType :=
  written.type?.map TypeKeyword.schemaType

mutual

/-- A schema with every reference in it replaced by what `follow` makes of its locator. -/
def resolveWith (follow : String → Schema) : WrittenSchema → Schema
  | ⟨some locator, _, _, _, _, _⟩ => follow locator
  | ⟨none, type?, title, properties, required, items⟩ =>
    { type? := type?.map TypeKeyword.schemaType
      properties := resolveProperties? follow properties
      required := required
      items := resolveItems? follow items
      reference := none
      title := title }

def resolveProperties? (follow : String → Schema) :
    Option (List (String × WrittenSchema)) → Option (List (String × Schema))
  | none => none
  | some properties => some (resolveProperties follow properties)

def resolveProperties (follow : String → Schema) :
    List (String × WrittenSchema) → List (String × Schema)
  | [] => []
  | (key, property) :: rest => (key, resolveWith follow property) :: resolveProperties follow rest

def resolveItems? (follow : String → Schema) : Option WrittenSchema → Option Schema
  | none => none
  | some items => some (resolveWith follow items)

end

end WrittenSchema

/-- Entries of the table that are not being visited. -/
def unvisited (table : Members WrittenSchema) (visiting : List String) : Members WrittenSchema :=
  table.filter fun entry => !visiting.contains entry.1

theorem name_mem_of_target? {table : Members WrittenSchema} {locator name : String}
    {target : WrittenSchema} (found : target? table locator = some (name, target)) :
    (name, target) ∈ table := by
  unfold target? at found
  split at found
  · cases component : Pointer.componentName? locator with
    | none => simp [component] at found
    | some other =>
      cases lookup : table.find? other with
      | none => simp [component, lookup] at found
      | some value =>
        simp [component, lookup] at found
        obtain ⟨rfl, rfl⟩ := found
        exact Members.mem_of_find? lookup
  · simp at found

theorem unvisited_length_lt {table : Members WrittenSchema} {visiting : List String} {name : String}
    {target : WrittenSchema} (member : (name, target) ∈ table) (fresh : name ∉ visiting) :
    (unvisited table (name :: visiting)).length < (unvisited table visiting).length := by
  have kept : unvisited table (name :: visiting)
      = (unvisited table visiting).filter fun entry => !(entry.1 == name) := by
    simp only [unvisited, List.filter_filter]
    congr 1
    funext entry
    by_cases same : entry.1 = name <;> simp [same]
  rw [kept]
  refine List.length_filter_lt_length_iff_exists.mpr ⟨(name, target), ?_, by simp⟩
  simp [unvisited, member, fresh]

/-- What a locator resolves to while the entries `visiting` are being resolved. -/
def resolveReference (table : Members WrittenSchema) (visiting : List String) (locator : String) :
    Schema :=
  let resolved :=
    match _found : target? table locator with
    | none => Schema.ofType .object
    | some (name, target) =>
      if _seen : name ∈ visiting then Schema.empty
      else
        match target.reference with
        | some next => { resolveReference table (name :: visiting) next with reference := none }
        | none =>
          { Schema.empty with
            type? := target.schemaType
            items := target.items.map
              (WrittenSchema.resolveWith fun next => resolveReference table (name :: visiting) next)
            title := target.title }
  { resolved with reference := some ⟨Pointer.componentName? locator, some locator⟩ }
termination_by (unvisited table visiting).length
decreasing_by
  all_goals exact unvisited_length_lt (name_mem_of_target? (by assumption)) (by assumption)

/-- A schema of the table's document with its references resolved. -/
def WrittenSchema.resolve (table : Members WrittenSchema) (written : WrittenSchema) : Schema :=
  written.resolveWith (resolveReference table [])

/-- The entry that a chain of references ends at, unless it leaves the table or comes back to an
entry already visited. -/
def chainEnd? (table : Members WrittenSchema) (visiting : List String) (written : WrittenSchema) :
    Option WrittenSchema :=
  match written.reference with
  | none => some written
  | some locator =>
    match _found : target? table locator with
    | none => none
    | some (name, target) =>
      if _seen : name ∈ visiting then none else chainEnd? table (name :: visiting) target
termination_by (unvisited table visiting).length
decreasing_by exact unvisited_length_lt (name_mem_of_target? (by assumption)) (by assumption)

/-- An entry of the table. One that refers to another entry is resolved to the whole of it. -/
def resolveEntry (table : Members WrittenSchema) (name : String) (written : WrittenSchema) :
    Schema :=
  match chainEnd? table [name] written with
  | some last => last.resolve table
  | none => written.resolve table

namespace WrittenDocument

def resolve (written : WrittenDocument) : Document where
  title := written.title
  schemas := written.table.map fun table =>
    table.map fun entry => (entry.1, resolveEntry table entry.1 entry.2)

end WrittenDocument
end SchemaDecls
