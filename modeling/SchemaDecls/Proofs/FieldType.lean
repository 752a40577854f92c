import SchemaDecls.Declaration

/-!
The types of properties as a judgement on the keywords of a schema, and beside it what keeps a
property from having one. A property has its type exactly when the compiler finds it, and is at
fault exactly when the compiler reports it.
-/
namespace SchemaDecls

namespace Schema

theorem shape_eq_object_iff (schema : Schema) :
    schema.shape = .object ↔ schema.type? = some .object ∧ schema.reference = none := by
  unfold shape
  cases schema.type? with
  | none => simp
  | some type => cases type <;> cases schema.reference <;> simp

theorem shape_eq_array_iff (schema : Schema) (items : Option Schema) :
    schema.shape = .array items ↔ schema.type? = some .array ∧ schema.items = items := by
  unfold shape
  cases schema.type? with
  | none => simp
  | some type => cases type <;> cases schema.reference <;> simp

theorem isInlineObject_iff (schema : Schema) :
    schema.isInlineObject = true ↔ schema.type? = some .object ∧ schema.reference = none := by
  rw [← shape_eq_object_iff]
  unfold isInlineObject
  cases schema.shape <;> simp

theorem shape_cases (schema : Schema) :
    (schema.type? = none ∧ schema.shape = .absent) ∨
    (schema.type? = some .object ∧ schema.reference = none ∧ schema.shape = .object) ∨
    (∃ reference, schema.type? = some .object ∧ schema.reference = some reference ∧
      schema.shape = .reference reference) ∨
    (schema.type? = some .array ∧ schema.shape = .array schema.items) ∨
    (schema.type? = some .null ∧ schema.shape = .null) ∨
    (∃ text, schema.type? = some (.other text) ∧ schema.shape = .other text) ∨
    (∃ type, schema.type? = some type ∧ type.isPrimitive = true ∧
      schema.shape = .primitive type) := by
  unfold shape
  cases schema.type? with
  | none => simp
  | some type => cases type <;> cases schema.reference <;> simp [SchemaType.isPrimitive]

theorem shape_of_primitive {schema : Schema} {type : SchemaType} {target : TargetType}
    (written : schema.type? = some type) (stands : target.primitive? = some type) :
    schema.shape = .primitive type := by
  cases target <;> simp [TargetType.primitive?] at stands <;> subst stands <;>
    simp [shape, written]

end Schema

theorem Reference.label_eq_none_iff (reference : Reference) :
    reference.label = none ↔ reference = ⟨none, none⟩ := by
  obtain ⟨id, locator⟩ := reference
  cases id <;> simp [Reference.label]

theorem Reference.label_of_id {reference : Reference} {name : String}
    (identified : reference.id = some name) : reference.label = some name := by
  simp [label, identified]

/-- The type that an array of `items` has for its elements. -/
inductive HasElement (items : Schema) : TargetType → Prop where
  | primitive {type : SchemaType} {element : TargetType} (written : items.type? = some type)
      (stands : element.primitive? = some type) : HasElement items element
  | reference {reference : Reference} {label : String} (object : items.type? = some .object)
      (refers : items.reference = some reference) (labelled : reference.label = some label) :
      HasElement items (.named (Name.pascal label))
  | inline {title : String} (object : items.type? = some .object)
      (inPlace : items.reference = none) (titled : items.title = some title)
      (usable : Name.pascal title ≠ "") : HasElement items (.named (Name.pascal title))

/-- The type of the property `key`. A reference to an object takes the label of the reference for
its name, an inline object the key. -/
inductive HasType (key : String) (property : Schema) : TargetType → Prop where
  | primitive {type : SchemaType} {target : TargetType} (written : property.type? = some type)
      (stands : target.primitive? = some type) : HasType key property target
  | reference {reference : Reference} (object : property.type? = some .object)
      (refers : property.reference = some reference) :
      HasType key property (.named (Name.pascal (reference.label.getD key)))
  | inline (object : property.type? = some .object) (inPlace : property.reference = none) :
      HasType key property (.named (Name.pascal key))
  | list {items : Schema} {element : TargetType} (array : property.type? = some .array)
      (written : property.items = some items) (elements : HasElement items element) :
      HasType key property (.list element)

/-- What keeps the items of an array from giving its elements a type. -/
inductive ItemsFault : Option Schema → Defect → Prop where
  | missing : ItemsFault none .unsupportedItems
  | untyped {items : Schema} (absent : items.type? = none) :
      ItemsFault (some items) .unsupportedItems
  | refused {items : Schema} {type : SchemaType} (written : items.type? = some type)
      (other : type = .array ∨ type = .null ∨ ∃ text, type = .other text) :
      ItemsFault (some items) .unsupportedItems
  | unlabelled {items : Schema} (object : items.type? = some .object)
      (bare : items.reference = some ⟨none, none⟩) : ItemsFault (some items) .unsupportedItems
  | untitled {items : Schema} (object : items.type? = some .object)
      (inPlace : items.reference = none)
      (nameless : ∀ title, items.title = some title → Name.pascal title = "") :
      ItemsFault (some items) .missingItemTitle

/-- What keeps a property from having a type, with the path that the report names. -/
inductive TypeFault (property : Schema) (path : String) : SchemaFailure → Prop where
  | absent (untyped : property.type? = none) : TypeFault property path ⟨path, .typeRequired⟩
  | null (written : property.type? = some .null) :
      TypeFault property path ⟨path, .unsupportedType "null"⟩
  | unknown {text : String} (written : property.type? = some (.other text)) :
      TypeFault property path ⟨path, .unknownType text⟩
  | items {defect : Defect} (array : property.type? = some .array)
      (fault : ItemsFault property.items defect) :
      TypeFault property path ⟨Pointer.push path "items", defect⟩

theorem itemTypeName?_eq_some_iff (items : Schema) (name : String) :
    itemTypeName? items = some name ↔
      ∃ title, items.title = some title ∧ Name.pascal title ≠ "" ∧ Name.pascal title = name := by
  simp [itemTypeName?, Name.pascal?, Option.bind_eq_some_iff]

theorem itemTypeName?_eq_none_iff (items : Schema) :
    itemTypeName? items = none ↔ ∀ title, items.title = some title → Name.pascal title = "" := by
  simp [itemTypeName?, Name.pascal?, Option.bind_eq_none_iff]

theorem target_eq_ok_iff (type : SchemaType) (target : TargetType) :
    type.target = .ok target ↔ target.primitive? = some type := by
  constructor
  · exact SchemaType.primitive?_target type target
  · intro stands
    cases target <;> simp [TargetType.primitive?] at stands <;> subst stands <;> rfl

theorem primitiveType_eq_ok_iff (type : SchemaType) (path : String) (target : TargetType) :
    primitiveType type path = .ok target ↔ target.primitive? = some type := by
  rw [← target_eq_ok_iff, primitiveType]
  cases type.target with
  | error defect => exact ⟨nofun, nofun⟩
  | ok found =>
    constructor
    · intro same
      exact congrArg Except.ok (Except.ok.inj same)
    · intro same
      exact congrArg Except.ok (Except.ok.inj same)

/-- An array finds its element type exactly when its items have one. -/
theorem itemType_eq_ok_iff (items : Schema) (path : String) (element : TargetType) :
    itemType (some items) path = .ok element ↔ HasElement items element := by
  constructor
  · intro run
    rcases items.shape_cases with ⟨_, shape⟩ | ⟨object, inPlace, shape⟩ |
      ⟨reference, object, refers, shape⟩ | ⟨_, shape⟩ | ⟨_, shape⟩ | ⟨_, _, shape⟩ |
      ⟨type, written, _, shape⟩ <;> simp only [itemType, shape, reduceCtorEq] at run
    · cases named : itemTypeName? items with
      | none => simp [named] at run
      | some name =>
        simp only [named, Except.ok.injEq] at run
        obtain ⟨title, titled, usable, rfl⟩ := (itemTypeName?_eq_some_iff items name).mp named
        exact run ▸ .inline object inPlace titled usable
    · cases labelled : reference.label with
      | none => simp [labelled] at run
      | some label =>
        simp only [labelled, Except.ok.injEq] at run
        exact run ▸ .reference object refers labelled
    · exact .primitive written ((primitiveType_eq_ok_iff type path element).mp run)
  · intro typed
    cases typed with
    | @primitive type _ written stands =>
      rw [itemType, Schema.shape_of_primitive written stands]
      exact (primitiveType_eq_ok_iff type path element).mpr stands
    | reference object refers labelled => simp [itemType, Schema.shape, object, refers, labelled]
    | inline object inPlace titled usable =>
      have named := (itemTypeName?_eq_some_iff items _).mpr ⟨_, titled, usable, rfl⟩
      simp [itemType, Schema.shape, object, inPlace, named]

theorem primitiveType_ne_error {type : SchemaType} (primitive : type.isPrimitive = true)
    (path : String) (failure : SchemaFailure) : primitiveType type path ≠ .error failure := by
  intro reported
  cases type <;> simp [SchemaType.isPrimitive] at primitive <;> cases reported

/-- An array reports exactly the fault of its items, at the path of the items. -/
theorem itemType_eq_error_iff (items : Option Schema) (path : String) (failure : SchemaFailure) :
    itemType items path = .error failure ↔
      ∃ defect, ItemsFault items defect ∧ failure = ⟨path, defect⟩ := by
  constructor
  · intro run
    cases items with
    | none => exact ⟨_, .missing, (Except.error.inj run).symm⟩
    | some items =>
      rcases items.shape_cases with ⟨absent, shape⟩ | ⟨object, inPlace, shape⟩ |
        ⟨reference, object, refers, shape⟩ | ⟨written, shape⟩ | ⟨written, shape⟩ |
        ⟨text, written, shape⟩ | ⟨type, _, primitive, shape⟩ <;>
        simp only [itemType, shape, Except.error.injEq] at run
      · exact ⟨_, .untyped absent, run.symm⟩
      · cases named : itemTypeName? items with
        | none =>
          simp only [named, Except.error.injEq] at run
          exact ⟨_, .untitled object inPlace ((itemTypeName?_eq_none_iff items).mp named), run.symm⟩
        | some name => simp [named] at run
      · cases labelled : reference.label with
        | none =>
          simp only [labelled, Except.error.injEq] at run
          have bare := reference.label_eq_none_iff.mp labelled
          exact ⟨_, .unlabelled object (bare ▸ refers), run.symm⟩
        | some label => simp [labelled] at run
      · exact ⟨_, .refused written (Or.inl rfl), run.symm⟩
      · exact ⟨_, .refused written (Or.inr (Or.inl rfl)), run.symm⟩
      · exact ⟨_, .refused written (Or.inr (Or.inr ⟨text, rfl⟩)), run.symm⟩
      · exact absurd run (primitiveType_ne_error primitive path failure)
  · rintro ⟨defect, fault, rfl⟩
    cases fault with
    | missing => rfl
    | untyped absent => simp [itemType, Schema.shape, absent]
    | refused written other =>
      rcases other with rfl | rfl | ⟨text, rfl⟩ <;> simp [itemType, Schema.shape, written]
    | unlabelled object bare => simp [itemType, Schema.shape, object, bare, Reference.label]
    | untitled object inPlace nameless =>
      have unnamed := (itemTypeName?_eq_none_iff _).mpr nameless
      simp [itemType, Schema.shape, object, inPlace, unnamed]

/-- The compiler gives a property a type exactly when the judgement does, and the same one. -/
theorem propertyType_eq_ok_iff (key : String) (property : Schema) (path : String)
    (target : TargetType) : propertyType key property path = .ok target ↔
      HasType key property target := by
  constructor
  · intro run
    rcases property.shape_cases with ⟨_, shape⟩ | ⟨object, inPlace, shape⟩ |
      ⟨reference, object, refers, shape⟩ | ⟨array, shape⟩ | ⟨_, shape⟩ | ⟨_, _, shape⟩ |
      ⟨type, written, _, shape⟩ <;>
      simp only [propertyType, shape, Except.ok.injEq, reduceCtorEq] at run
    · exact run ▸ .inline object inPlace
    · exact run ▸ .reference object refers
    · cases written : property.items with
      | none => simp [written, itemType, Except.map] at run
      | some items =>
        cases element : itemType (some items) (Pointer.push path "items") with
        | error _ => simp [written, element, Except.map] at run
        | ok type =>
          simp only [written, element, Except.map, Except.ok.injEq] at run
          exact run ▸ .list array written ((itemType_eq_ok_iff items _ type).mp element)
    · exact .primitive written ((primitiveType_eq_ok_iff type path target).mp run)
  · intro typed
    cases typed with
    | @primitive type _ written stands =>
      rw [propertyType, Schema.shape_of_primitive written stands]
      exact (primitiveType_eq_ok_iff type path target).mpr stands
    | reference object refers => simp [propertyType, Schema.shape, object, refers]
    | inline object inPlace => simp [propertyType, Schema.shape, object, inPlace]
    | list array written elements =>
      have found := (itemType_eq_ok_iff _ (Pointer.push path "items") _).mpr elements
      simp [propertyType, Schema.shape, array, written, found, Except.map]

/-- A property has one type at most. -/
theorem hasType_unique {key : String} {property : Schema} {first second : TargetType}
    (left : HasType key property first) (right : HasType key property second) : first = second := by
  have one := (propertyType_eq_ok_iff key property "" first).mpr left
  have other := (propertyType_eq_ok_iff key property "" second).mpr right
  exact Except.ok.inj (one.symm.trans other)

/-- The compiler reports a property exactly when it is at fault, and with that fault. -/
theorem propertyType_eq_error_iff (key : String) (property : Schema) (path : String)
    (failure : SchemaFailure) : propertyType key property path = .error failure ↔
      TypeFault property path failure := by
  constructor
  · intro run
    rcases property.shape_cases with ⟨untyped, shape⟩ | ⟨_, _, shape⟩ | ⟨_, _, _, shape⟩ |
      ⟨array, shape⟩ | ⟨written, shape⟩ | ⟨text, written, shape⟩ | ⟨type, _, primitive, shape⟩ <;>
      simp only [propertyType, shape, Except.error.injEq, reduceCtorEq] at run
    · exact run ▸ .absent untyped
    · cases found : itemType property.items (Pointer.push path "items") with
      | ok type => simp [found, Except.map] at run
      | error reported =>
        simp only [found, Except.map, Except.error.injEq] at run
        obtain ⟨defect, fault, same⟩ := (itemType_eq_error_iff _ _ _).mp found
        exact run ▸ same ▸ .items array fault
    · exact run ▸ .null written
    · exact run ▸ .unknown written
    · exact absurd run (primitiveType_ne_error primitive path failure)
  · intro fault
    cases fault with
    | absent untyped => simp [propertyType, Schema.shape, untyped]
    | null written => simp [propertyType, Schema.shape, written, SchemaType.name]
    | unknown written => simp [propertyType, Schema.shape, written]
    | items array fault =>
      have reported := (itemType_eq_error_iff _ (Pointer.push path "items") _).mpr ⟨_, fault, rfl⟩
      simp [propertyType, Schema.shape, array, reported, Except.map]

end SchemaDecls
