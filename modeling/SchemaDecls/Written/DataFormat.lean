import SchemaDecls.Written

/-! Taking documents out of a data format. A format says how its values are read as texts, lists,
records and tables; which members a document and its schemas have is the same in all formats. -/
namespace SchemaDecls

/-- How the values of a data format are read. `record` and `table` open a container; where no more
may be opened, `noRecord` and `noTable` stand in for them. A number counts how many containers may
still be opened inside each other. -/
structure DataFormat (m : Type → Type) (Value : Type) where
  optional : {α : Type} → (Value → m α) → Value → m (Option α)
  text : Value → m String
  texts : Nat → Value → m (List String)
  typeKeyword : Nat → Value → m TypeKeyword
  record : {κ ρ : Type} → [DecidableEq κ] → (κ → String) → List κ → ρ →
    (κ → ρ → Value → m ρ) → Value → m ρ
  noRecord : {ρ : Type} → ρ → Value → m ρ
  table : {α : Type} → (Value → m α) → Value → m (Members α)
  noTable : {α : Type} → Value → m (Members α)

namespace DataFormat

variable {m : Type → Type} [Monad m] {Value : Type}

/-- How schemas and tables of schemas are read at one depth. -/
structure Readers (m : Type → Type) (Value : Type) where
  schema : Value → m WrittenSchema
  table : Value → m (Members WrittenSchema)

/-- Takes up one keyword of a schema. -/
def assignSchema (format : DataFormat m Value) (room : Nat) (inner : Readers m Value)
    (key : SchemaKey) (written : WrittenSchema) (value : Value) : m WrittenSchema := do
  match key with
  | .reference => return { written with reference := ← format.optional format.text value }
  | .type => return { written with type? := ← format.optional (format.typeKeyword room) value }
  | .title => return { written with title := ← format.optional format.text value }
  | .properties => return { written with properties := ← format.optional inner.table value }
  | .required => return { written with required := ← format.optional (format.texts room) value }
  | .items => return { written with items := ← format.optional inner.schema value }

/-- Reading where `room` more containers may be opened inside each other. -/
def readers (format : DataFormat m Value) : Nat → Readers m Value
  | 0 => ⟨format.noRecord .empty, format.noTable⟩
  | room + 1 =>
    let inner := readers format room
    ⟨format.record SchemaKey.name SchemaKey.all .empty (format.assignSchema room inner),
      format.table inner.schema⟩

def title (format : DataFormat m Value) : Value → m (Option String) :=
  format.record (fun _ => "title") [()] none fun _ _ value => format.optional format.text value

def schemas (format : DataFormat m Value) (room : Nat) :
    Value → m (Option (Members WrittenSchema)) :=
  format.record (fun _ => "schemas") [()] none fun _ _ value =>
    format.optional (format.readers room).table value

/-- Takes up one member of a document; `room` counts from inside the document. -/
def assignDocument (format : DataFormat m Value) (room : Nat) (key : DocumentKey)
    (written : WrittenDocument) (value : Value) : m WrittenDocument := do
  match key with
  | .info => return { written with title := (← format.optional format.title value).join }
  | .components =>
    return { written with schemas := (← format.optional (format.schemas (room - 1)) value).join }
  | .definitions =>
    return { written with definitions := ← format.optional (format.readers room).table value }

/-- The document of which `value` is the outermost container, when `depth` containers may stand
inside each other. -/
def document (format : DataFormat m Value) (depth : Nat) : Value → m WrittenDocument :=
  format.record DocumentKey.name DocumentKey.all .empty (format.assignDocument (depth - 1))

end DataFormat
end SchemaDecls
