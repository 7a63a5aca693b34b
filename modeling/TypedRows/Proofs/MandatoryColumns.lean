import TypedRows.Proofs.WrittenRows

/-! Nulls in mandatory columns. Whether a mandatory field is null is asked of what the object holds
and not of what the persister makes of it. So a null is written exactly if the persister stores
null for what is not null, and the row that has it is refused when it is read. -/
namespace TypedRows

namespace FieldDecl

/-- The declarations that can be written down: a column or a suffix, refined step by step. -/
inductive Declared : FieldDecl → Prop
  | ofColumn (attributeName : String) (kind : Kind) : Declared (ofColumn attributeName kind)
  | ofSuffix (attributeName : String) (kind : Kind) (suffixType : String) :
    Declared (ofSuffix attributeName kind suffixType)
  | named {decl : FieldDecl} (column : String) (earlier : Declared decl) :
    Declared (decl.named column)
  | inTables {decl : FieldDecl} (tables : List String) (earlier : Declared decl) :
    Declared (decl.inTables tables)
  | asPartitionKey {decl : FieldDecl} (ordinal : Nat) (earlier : Declared decl) :
    Declared (decl.asPartitionKey ordinal)
  | asClusteringKey {decl : FieldDecl} (ordinal : Nat) (order : ClusteringOrder)
      (earlier : Declared decl) : Declared (decl.asClusteringKey ordinal order)
  | asTypeKey {decl : FieldDecl} (earlier : Declared decl) : Declared decl.asTypeKey
  | asIndex {decl : FieldDecl} (earlier : Declared decl) : Declared decl.asIndex
  | asMandatory {decl : FieldDecl} (earlier : Declared decl) : Declared decl.asMandatory
  | asKeyspaceKey {decl : FieldDecl} (suffixType : String) (earlier : Declared decl) :
    Declared (decl.asKeyspaceKey suffixType)
  | excluding {decl : FieldDecl} (values : List String) (earlier : Declared decl) :
    Declared (decl.excluding values)
  | persistedBy {decl : FieldDecl} (persister : Persister) (earlier : Declared decl) :
    Declared (decl.persistedBy persister)

/-- The steps that make a field a key make it mandatory, and no step takes that back. -/
theorem Declared.mandatory_of_key {decl : FieldDecl} (declared : decl.Declared)
    (key : decl.Plays .partitionKey ∨ decl.Plays .clusteringKey) : decl.mandatory = true := by
  induction declared with
  | ofColumn | ofSuffix => rcases key with partition | clustering <;> contradiction
  | asPartitionKey | asClusteringKey | asMandatory => rfl
  | named _ _ ih | inTables _ _ ih | asTypeKey _ ih | asIndex _ ih | asKeyspaceKey _ _ ih
  | excluding _ _ ih | persistedBy _ _ ih => exact ih key

end FieldDecl

namespace Field

/-- The persister of the field stores null for what the object holds, though that is not null. -/
def Blanks (field : Field) (object : Object) : Prop :=
  ∃ persister held, field.decl.persister = some persister ∧
    object.get? field.attributeName = some held ∧ held ≠ .null ∧ persister.encode held = .ok .null

variable {field : Field} {object : Object} {held stored : Value}

/-- A null passes a persister by, in both directions. -/
theorem restore_null (field : Field) : field.restore .null = .ok .null := by
  unfold restore
  cases field.decl.persister <;> rfl

theorem store_null (field : Field) : field.store .null = .ok .null := by
  unfold store
  cases field.decl.persister <;> rfl

/-- A null that is read stays the null that a mandatory field must not be. -/
theorem decode_null_of_mandatory (mandatory : field.decl.mandatory = true) :
    field.decode .null = .error (.mandatoryColumnNull field.columnName field.declaredIn) := by
  simp [decode, restore_null, check, checkKind, checkMandatory, Kind.accepts_null, require, mandatory,
    Value.isNull, bind, Except.bind]

theorem store_eq_ok_iff (present : held ≠ .null) :
    field.store held = .ok stored ↔ (field.decl.persister = none ∧ held = stored) ∨
      ∃ persister, field.decl.persister = some persister ∧ persister.encode held = .ok stored ∧
        persister.storedKind.accepts stored = true := by
  have notNull : held.isNull = false := by
    rw [← Bool.not_eq_true, Value.isNull_iff]
    exact present
  unfold store
  cases field.decl.persister with
  | none => simp
  | some persister =>
    simp only [notNull, Bool.false_eq_true, if_false, bind_eq_ok_iff, mapError_eq_ok_iff, checkKind,
      require_eq_ok_iff]
    constructor
    · rintro ⟨_, encodes, _, accepted, same⟩
      cases same
      exact .inr ⟨persister, rfl, encodes, accepted⟩
    · rintro (⟨none, _⟩ | ⟨_, same, encodes, accepted⟩)
      · cases none
      · cases same
        exact ⟨stored, encodes, (), accepted, rfl⟩

theorem eq_null_iff_blanks_of_encode (mandatory : field.decl.mandatory = true)
    (encoded : field.encode object = .ok stored) : stored = .null ↔ field.Blanks object := by
  obtain ⟨held, read, ⟨done, checked⟩, wrote⟩ := (encode_eq_ok_iff _ _ _).mp encoded
  have present : held ≠ .null := by
    rw [Ne, ← Value.isNull_iff, ((check_eq_ok_iff _ _ _).mp checked).2 mandatory]
    exact Bool.false_ne_true
  rcases (store_eq_ok_iff present).mp wrote with ⟨plain, rfl⟩ | ⟨persister, persisted, encodes, _⟩
  · refine iff_of_false present ?_
    rintro ⟨_, _, persisted, _⟩
    rw [plain] at persisted
    cases persisted
  · constructor
    · rintro rfl
      exact ⟨persister, held, persisted, read, present, encodes⟩
    · rintro ⟨again, heldAgain, persistedAgain, readAgain, _, blanks⟩
      obtain rfl := Option.some.inj (persisted.symm.trans persistedAgain)
      obtain rfl := Option.some.inj (read.symm.trans readAgain)
      exact Except.ok.inj (encodes.symm.trans blanks)

end Field

namespace Context

variable {context : Context} {table : Table} {field : Field}

/-- Whether a column is written as null by its persister alone. A type key is written without it. -/
def WritesNull (context : Context) (field : Field) : Prop :=
  field.decl.typeKey = false ∧ field.Blanks context.object

/-- What a mandatory column holds wherever it is written. -/
structure NullIffBlanked (context : Context) (table : Table) (field : Field) : Prop where
  columns : ∀ columns, context.columnValues table.name = .ok columns →
    ∃ value, columns.lookup field.columnName = some value ∧
      (value = .null ↔ context.WritesNull field)
  primaryKey : ∀ entries, context.primaryKeyValues table.name = .ok entries →
    field ∈ table.primaryKey →
      ∃ value, entries.lookup field.columnName = some value ∧
        (value = .null ↔ context.WritesNull field)
  row : ∀ row, context.toRow table.name = .ok row →
    ∃ value, row.get? field.columnName = some value ∧ (value = .null ↔ context.WritesNull field)

theorem eq_null_iff_of_columnValue {value : Value} (mandatory : field.decl.mandatory = true)
    (written : context.columnValue field = .ok (field.columnName, value)) :
    value = .null ↔ context.WritesNull field := by
  unfold columnValue at written
  cases typed : field.decl.typeKey with
  | true =>
    rw [typed] at written
    cases written
    simp [WritesNull, typed]
  | false =>
    rw [typed, if_neg Bool.false_ne_true] at written
    obtain ⟨stored, encoded, same⟩ := (map_eq_ok_iff _ _ _).mp written
    cases same
    simp [WritesNull, typed, Field.eq_null_iff_blanks_of_encode mandatory encoded]

variable {boundary : Boundary} (described : context.entity.Describes boundary)
  (listed : table ∈ context.entity.tables)

include described listed

theorem nullIffBlanked_of_mandatory (member : field ∈ table.fields)
    (mandatory : field.decl.mandatory = true) : context.NullIffBlanked table field := by
  constructor
  · intro columns stored
    obtain ⟨value, written, found⟩ := lookup_columnValues described listed stored member
    exact ⟨value, found, eq_null_iff_of_columnValue mandatory written⟩
  · intro entries stored isKey
    obtain ⟨value, written, found⟩ := lookup_primaryKeyValues described listed stored isKey
    exact ⟨value, found, eq_null_iff_of_columnValue mandatory written⟩
  · intro row rowWritten
    obtain ⟨value, written, found⟩ := get?_toRow described listed rowWritten member
    exact ⟨value, found, eq_null_iff_of_columnValue mandatory written⟩

theorem mandatory_of_mem_primaryKey
    (declared : ∀ decl ∈ context.entity.cls.lineage, ∀ field ∈ decl.fields, field.Declared)
    (member : field ∈ table.primaryKey) : field.decl.mandatory = true := by
  have built := Entity.builtFrom_of_mem_tables described listed
  obtain ⟨inClass, _⟩ := (Table.mem_fields_iff built).mp (primaryKey_subset described listed member)
  obtain ⟨decl, above, inDecl⟩ := List.mem_flatMap.mp inClass
  obtain ⟨own, ownMember, rfl⟩ := List.mem_map.mp inDecl
  refine (declared decl (List.mem_reverse.mp above) own ownMember).mandatory_of_key ?_
  rcases List.mem_append.mp member with partition | clustering
  · exact .inl (((part_players described listed .partitionKey).mem_iff _).mp partition).2
  · exact .inr (((part_players described listed .clusteringKey).mem_iff _).mp clustering).2

omit described listed in
/-- A mandatory column is written as null exactly if its persister stores null for what the object
holds. What is then stored is refused when it is read. Partition and clustering keys are mandatory
like any other column that is declared so. -/
theorem nullIffBlanked_of_introspect {settings : Settings} {boundary : Boundary} {cls : Class}
    {context : Context} (introspected : Entity.introspect settings boundary cls = .ok context.entity)
    (declared : ∀ decl ∈ cls.lineage, ∀ field ∈ decl.fields, field.Declared) :
    ∀ table ∈ context.entity.tables,
      (∀ key ∈ table.primaryKey, key ∈ table.fields ∧ key.decl.mandatory = true) ∧
      ∀ field ∈ table.fields, field.decl.mandatory = true →
        context.NullIffBlanked table field ∧
        field.decode .null = .error (.mandatoryColumnNull field.columnName field.declaredIn) := by
  obtain ⟨rfl, _, described⟩ := (Entity.introspect_eq_ok_iff _ _ _ _).mp introspected
  intro table listed
  refine ⟨fun key member => ?_, fun field member mandatory => ?_⟩
  · exact ⟨primaryKey_subset described listed member,
      mandatory_of_mem_primaryKey described listed declared member⟩
  · exact ⟨nullIffBlanked_of_mandatory described listed member mandatory,
      Field.decode_null_of_mandatory mandatory⟩

end Context

namespace Logbook

def day : Field := ⟨(FieldDecl.ofColumn "day" .text).asPartitionKey 0, "port::Entry"⟩

def remark : Field :=
  ⟨(FieldDecl.ofColumn "remark" .text).asMandatory.persistedBy forgetful, "port::Entry"⟩

theorem day_listed : day ∈ log.primaryKey := List.mem_cons_self

theorem remark_listed : remark ∈ log.fields := by
  have fields : log.fields = [⟨(FieldDecl.ofColumn "berth" .text).asPartitionKey 1, "port::Entry"⟩,
    day, kindField, remark] := rfl
  rw [fields]
  simp

theorem declared : ∀ decl ∈ arrival.lineage, ∀ field ∈ decl.fields, field.Declared := by
  intro decl member
  rcases List.mem_pair.mp member with rfl | rfl
  · exact fun _ none => absurd none List.not_mem_nil
  · intro field own
    change field ∈ [_, _, _, _] at own
    simp only [List.mem_cons, List.not_mem_nil, or_false] at own
    rcases own with rfl | rfl | rfl | rfl
    · exact .asPartitionKey 1 (.ofColumn _ _)
    · exact .asPartitionKey 0 (.ofColumn _ _)
    · exact .asTypeKey (.asClusteringKey 0 .asc (.ofColumn _ _))
    · exact .persistedBy forgetful (.asMandatory (.ofColumn _ _))

theorem remark_blanks : remark.Blanks context.object :=
  ⟨forgetful, .text "late", rfl, rfl, by simp, rfl⟩

theorem columnValues_log : context.columnValues "log" = .ok
    [("berth", .text "north"), ("day", .text "monday"), ("kind", .text "arrival"),
      ("remark", .null)] := rfl

end Logbook

/-- The remark is mandatory and is lost, while the day is kept. -/
theorem Context.nullIffBlanked_of_introspect_arrival :
    ∃ row, Logbook.context.toRow "log" = .ok row ∧ row.get? "remark" = some .null ∧
      ∃ value, row.get? "day" = some value ∧ value ≠ .null := by
  have each := nullIffBlanked_of_introspect Logbook.introspect_arrival Logbook.declared
    Logbook.log Logbook.log_listed
  obtain ⟨keys, columns⟩ := each
  obtain ⟨dayMember, dayMandatory⟩ := keys Logbook.day Logbook.day_listed
  obtain ⟨day, _⟩ := columns Logbook.day dayMember dayMandatory
  obtain ⟨remark, _⟩ := columns Logbook.remark Logbook.remark_listed rfl
  obtain ⟨row, written⟩ : ∃ row, Logbook.context.toRow "log" = .ok row := ⟨_, rfl⟩
  obtain ⟨lost, found, blanked⟩ := remark.row row written
  obtain ⟨kept, dayFound, dayBlanked⟩ := day.row row written
  obtain rfl := blanked.mpr ⟨rfl, Logbook.remark_blanks⟩
  refine ⟨row, written, found, kept, dayFound, fun null => ?_⟩
  obtain ⟨_, _, _, persisted, _⟩ := dayBlanked.mp null
  cases persisted

/-- Declarations do not keep nulls out of mandatory columns. -/
theorem Context.not_forall_lookup_ne_null :
    ¬∀ (settings : Settings) (boundary : Boundary) (cls : Class) (context : Context) (table : Table)
      (columns : List (String × Value)) (field : Field),
      Entity.introspect settings boundary cls = .ok context.entity →
      (∀ decl ∈ cls.lineage, ∀ field ∈ decl.fields, field.Declared) →
      table ∈ context.entity.tables → context.columnValues table.name = .ok columns →
      field ∈ table.fields → field.decl.mandatory = true →
      columns.lookup field.columnName ≠ some .null := by
  intro always
  exact always {} .type Logbook.arrival Logbook.context Logbook.log _ Logbook.remark
    Logbook.introspect_arrival Logbook.declared Logbook.log_listed Logbook.columnValues_log
    Logbook.remark_listed rfl rfl

end TypedRows
