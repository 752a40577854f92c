import SchemaDecls.Proofs.JsonLayout
import SchemaDecls.Proofs.JsonMembers

/-!
Objects that stand for records and tables. A record has the fields that its known members spell, in
whatever order they stand and whatever stands between them; a table has its keys in the order of the
text.
-/
namespace SchemaDecls.Json
open ScanState

/-- The texts of the values under a name. -/
def valuesOf (name : String) (members : List (String × List Char)) : List (List Char) :=
  (members.filter fun member => member.1 = name).map Prod.snd

/-- An absent member is not there or is `null`; one that is present stands once. -/
def Shows {α : Type} (members : List (String × List Char)) (name : String)
    (Spelled : α → List Char → Prop) : Option α → Prop
  | none => valuesOf name members = [] ∨ valuesOf name members = [['n', 'u', 'l', 'l']]
  | some value => ∃ text, valuesOf name members = [text] ∧ Spelled value text

/-- An object that shows what it has to under the known names, and any values under others. -/
inductive RecordText (names : List String) (Shown : List (String × List Char) → Prop) :
    List Char → Prop where
  | object {members : List (String × List Char)} {text : List Char}
      (layout : ObjectText StringText members text)
      (others : ∀ member ∈ members, member.1 ∉ names → ValueText member.2)
      (shown : Shown members) : RecordText names Shown text

/-- The text is one value, and the value is decoded as `value`. -/
def Decodes {α : Type} (decode : Tree → Decoded α) (text : List Char) (value : α) : Prop :=
  ∃ tree, Parses text tree ∧ decode tree = .ok value

/-- A member of an object, under a key without half a surrogate pair. -/
def paired (entry : String × Tree) : Text × Tree := (⟨entry.1, true⟩, entry.2)

theorem ofList_paired (key : String) (tree : Tree) (rest : List (String × Tree)) :
    Entries.ofList (((key, tree) :: rest).map paired)
      = .cons ⟨key, true⟩ tree (.ofList (rest.map paired)) := rfl

/-- The fields of a record, one for each key. -/
structure Fields (κ ρ : Type) where
  Field : κ → Type
  get : (key : κ) → ρ → Field key
  set : (key : κ) → Field key → ρ → ρ
  get_set : ∀ key value record, get key (set key value record) = value
  get_set_other : ∀ key other value record, other ≠ key →
    get other (set key value record) = get other record
  ext : ∀ one other, (∀ key, get key one = get key other) → one = other

section Records
variable {κ ρ : Type} [DecidableEq κ] (fields : Fields κ ρ) {assign : κ → ρ → Tree → Decoded ρ}
  {known : String → Option κ} {label : κ → String}

/-- Members in any order make up the target: each sets its own field to what the target has there,
and a field without a member is that of the empty record. -/
theorem record_ofList {reader : (key : κ) → Tree → Decoded (fields.Field key)}
    (assigns : ∀ key record tree, assign key record tree
      = (reader key tree).map fun value => fields.set key value record)
    (named : ∀ text key, known text = some key ↔ text = label key)
    {target empty : ρ} {entries : List (String × Tree)}
    (skips : ∀ entry ∈ entries, known entry.1 = none → entry.2.skip = .ok ())
    (reads : ∀ entry ∈ entries, ∀ key, known entry.1 = some key →
      reader key entry.2 = .ok (fields.get key target))
    {seen : List κ} {record : ρ}
    (once : ∀ key, (entries.map Prod.fst).count (label key) ≤ if key ∈ seen then 0 else 1)
    (absent : ∀ key, key ∉ seen → label key ∉ entries.map Prod.fst →
      fields.get key empty = fields.get key target)
    (read : ∀ key, key ∈ seen → fields.get key record = fields.get key target)
    (unread : ∀ key, key ∉ seen → fields.get key record = fields.get key empty) :
    (Entries.ofList (entries.map paired)).record known assign
      seen record = .ok target := by
  -- The fields in `seen` are those of the target already, the others still those of `empty`.
  induction entries generalizing seen record with
  | nil =>
    refine congrArg _ (fields.ext _ _ fun key => ?_)
    by_cases member : key ∈ seen
    · exact read key member
    · exact (unread key member).trans (absent key member (by simp))
  | cons entry rest ih =>
    obtain ⟨text, tree⟩ := entry
    obtain ⟨skipHere, skipLater⟩ := List.forall_mem_cons.mp skips
    obtain ⟨readHere, readLater⟩ := List.forall_mem_cons.mp reads
    rw [ofList_paired, Entries.record, if_pos rfl]
    cases meant : known text with
    | none =>
      have apart : ∀ key, label key ≠ text := by
        intro key same
        simp [(named text key).mpr same.symm] at meant
      simp only [skipHere meant]
      refine ih skipLater readLater (fun key => ?_) (fun key fresh missing => ?_) read unread
      · exact Nat.le_trans List.count_le_count_cons (once key)
      · exact absent key fresh (by simpa [apart key] using missing)
    | some key =>
      obtain rfl : text = label key := (named text key).mp meant
      have apart : ∀ other, other ≠ key → label other ≠ label key := by
        intro other differs same
        have again := (named (label key) other).mpr same.symm
        exact differs (Option.some.inj (again.symm.trans meant))
      have fresh : key ∉ seen := by
        intro member
        have none := once key
        simp [member] at none
      simp only [if_neg fresh, assigns, readHere key meant]
      refine ih skipLater readLater (fun other => ?_) (fun other fresh missing => ?_)
        (fun other member => ?_) (fun other missing => ?_)
      · have bound := once other
        by_cases same : other = key
        · subst same
          simpa [fresh] using bound
        · simpa [same, (apart other same).symm] using bound
      · rw [List.mem_cons, not_or] at fresh
        exact absent other fresh.2 (by simpa [apart other fresh.1] using missing)
      · by_cases same : other = key
        · subst same
          exact fields.get_set _ _ _
        · rw [fields.get_set_other _ _ _ _ same]
          exact read other (List.mem_of_ne_of_mem same member)
      · rw [List.mem_cons, not_or] at missing
        rw [fields.get_set_other _ _ _ _ missing.1]
        exact unread other missing.2

theorem count_eq_length_valuesOf (name : String) (members : List (String × List Char)) :
    (members.map Prod.fst).count name = (valuesOf name members).length := by
  rw [valuesOf, List.length_map, ← List.countP_eq_length_filter, List.count, List.countP_map]
  rfl

/-- A text that shows every field of the target is decoded as the target. -/
theorem record_decodes (reader : (key : κ) → Tree → Decoded (fields.Field key)) {keys : List κ}
    (assigns : ∀ key record tree, assign key record tree
      = (reader key tree).map fun value => fields.set key value record)
    (named : ∀ text key, keyNamed? label keys text = some key ↔ text = label key)
    {names : List String} (listed : names = keys.map label)
    {target empty : ρ} {Shown : List (String × List Char) → Prop} {text : List Char}
    (spelled : RecordText names Shown text)
    (shows : ∀ members, Shown members → ∀ key,
      (valuesOf (label key) members = [] ∧ fields.get key empty = fields.get key target) ∨
        ∃ value, valuesOf (label key) members = [value] ∧
          Decodes (reader key) value (fields.get key target)) :
    Decodes (record label keys empty assign) text target := by
  obtain @⟨members, text, layout, others, shown⟩ := spelled
  have each : ∀ member ∈ members, ∃ tree, Parses member.2 tree ∧
      (keyNamed? label keys member.1 = none → tree.skip = .ok ()) ∧
      ∀ key, keyNamed? label keys member.1 = some key →
        reader key tree = .ok (fields.get key target) := by
    intro member inside
    cases meant : keyNamed? label keys member.1 with
    | none =>
      have unlisted : member.1 ∉ names := by
        intro known
        obtain ⟨key, _, same⟩ := List.mem_map.mp (listed ▸ known)
        simp [(named _ key).mpr same.symm] at meant
      obtain ⟨tree, parses, skipped⟩ := parses_value (others member inside unlisted)
      exact ⟨tree, parses, fun _ => skipped, nofun⟩
    | some key =>
      have same := (named _ key).mp meant
      have stands : member.2 ∈ valuesOf (label key) members :=
        List.mem_map_of_mem (List.mem_filter.mpr ⟨inside, by simp [same]⟩)
      rcases shows members shown key with ⟨none, _⟩ | ⟨value, only, tree, parses, reads⟩
      · simp [none] at stands
      · rw [only, List.mem_singleton] at stands
        refine ⟨tree, stands ▸ parses, nofun, ?_⟩
        rintro _ ⟨⟩
        exact reads
  choose! tree parses skips reads using each
  let entries := members.map fun member => (member.1, tree member)
  refine ⟨.object (.ofList (entries.map paired)),
    parses_object layout ?_, ?_⟩
  · rw [List.map_map, List.forall₂_map_right_iff, List.forall₂_same]
    intro member inside
    exact ⟨fun _ spelled => scan_string spelled, parses member inside⟩
  · have keysKept : entries.map Prod.fst = members.map Prod.fst := by simp [entries]
    refine record_ofList fields assigns named ?_ ?_ (fun key => ?_) (fun key _ missing => ?_)
      (by simp) (fun _ _ => rfl)
    · exact List.forall_mem_map.mpr skips
    · exact List.forall_mem_map.mpr reads
    · rw [keysKept, count_eq_length_valuesOf]
      rcases shows members shown key with ⟨none, _⟩ | ⟨value, only, _⟩
      · simp [none]
      · simp [only]
    · rcases shows members shown key with ⟨_, same⟩ | ⟨value, only, _⟩
      · exact same
      · rw [keysKept, ← List.count_eq_zero, count_eq_length_valuesOf, only] at missing
        cases missing

end Records

/-- What a member shows, an optional field takes. -/
theorem shown_member {α : Type} {members : List (String × List Char)} {name : String}
    {Spelled : α → List Char → Prop} {decode : Tree → Decoded α}
    (decodes : ∀ value text, Spelled value text → Decodes decode text value)
    (refuses : ∀ value, decode .null ≠ .ok value) {shown : Option α}
    (shows : Shows members name Spelled shown) :
    (valuesOf name members = [] ∧ none = shown) ∨
      ∃ value, valuesOf name members = [value] ∧ Decodes (optional decode) value shown := by
  cases shown with
  | none =>
    rcases shows with nothing | null
    · exact .inl ⟨nothing, rfl⟩
    · exact .inr ⟨_, null, .null, parses_null, rfl⟩
  | some value =>
    obtain ⟨text, only, spelled⟩ := shows
    obtain ⟨tree, parses, decoded⟩ := decodes value text spelled
    refine .inr ⟨text, only, tree, parses, ?_⟩
    cases tree with
    | null => exact absurd decoded (refuses value)
    | _ => exact congrArg (Except.map some) decoded

theorem put_fresh {α : Type} {table : Members α} {key : String} (fresh : key ∉ table.keys)
    (value : α) : table.put key value = table ++ [(key, value)] := by
  induction table with
  | nil => rfl
  | cons entry rest ih =>
    obtain ⟨other, old⟩ := entry
    simp only [Members.keys, List.map_cons, List.mem_cons, not_or] at fresh
    rw [Members.put, if_neg (Ne.symm fresh.1), ih fresh.2, List.cons_append]

theorem table_ofList {α : Type} {decode : Tree → Decoded α} {table : Members α}
    {entries : List (String × Tree)} (done : Members α)
    (decoded : List.Forall₂ (fun value entry => entry.1 = value.1 ∧ decode entry.2 = .ok value.2)
      table entries)
    (distinct : (done ++ table).keys.Nodup) :
    (Entries.ofList (entries.map paired)).table decode done
      = .ok (done ++ table) := by
  induction decoded generalizing done with
  | nil => simp [Entries.ofList, Entries.table]
  | @cons value entry table entries here _ ih =>
    obtain ⟨_, value⟩ := value
    obtain ⟨key, tree⟩ := entry
    obtain ⟨rfl, decodes⟩ := here
    have fresh : key ∉ done.keys := by
      rw [Members.keys, List.map_append, List.nodup_append] at distinct
      exact fun member => distinct.2.2 key member key (by simp) rfl
    have onward := ih (done ++ [(key, value)]) (by simpa using distinct)
    rw [List.append_assoc, List.singleton_append] at onward
    rw [← put_fresh fresh value] at onward
    rw [ofList_paired, Entries.table, if_pos rfl, decodes]
    exact onward

/-- An object whose keys are distinct is decoded as the table with these keys, in this order. -/
theorem table_decodes {α : Type} {decode : Tree → Decoded α} {table : Members α}
    (distinct : table.keys.Nodup) {members : List (String × List Char)} {text : List Char}
    (layout : ObjectText StringText members text)
    (spelled : List.Forall₂ (fun entry member =>
      member.1 = entry.1 ∧ Decodes decode member.2 entry.2) table members) :
    Decodes (Json.table decode) text table := by
  obtain ⟨entries, parsed, decoded⟩ : ∃ entries : List (String × Tree),
      List.Forall₂ (fun member entry => entry.1 = member.1 ∧ Parses member.2 entry.2)
        members entries ∧
      List.Forall₂ (fun value entry => entry.1 = value.1 ∧ decode entry.2 = .ok value.2)
        table entries := by
    clear layout distinct
    induction spelled with
    | nil => exact ⟨[], .nil, .nil⟩
    | @cons value member _ _ here _ ih =>
      obtain ⟨same, tree, parses, decodes⟩ := here
      obtain ⟨entries, parsed, decoded⟩ := ih
      exact ⟨(member.1, tree) :: entries, .cons ⟨rfl, parses⟩ parsed, .cons ⟨same, decodes⟩ decoded⟩
  have tabled := table_ofList [] decoded distinct
  refine ⟨.object (.ofList (entries.map paired)),
    parses_object layout ?_, tabled⟩
  rw [List.forall₂_map_right_iff]
  refine parsed.imp fun member entry both => ⟨fun spelled named => ?_, both.2⟩
  rw [paired, both.1]
  exact scan_string named

end SchemaDecls.Json
