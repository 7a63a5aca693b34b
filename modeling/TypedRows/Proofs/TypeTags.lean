import TypedRows.Proofs.RoundTrip

/-! The type tag of a written row. The writer puts the discriminator into the type key column as it
is, past the persister of the column; whoever looks for it reads the column through the persister.
The tag comes back exactly if the persister reads it as it is, and a persister that only gives back
what it has encoded itself need not do so. -/
namespace TypedRows

/-- A persister that can store every text and gives it back. -/
def Persister.Lawful (persister : Persister) : Prop :=
  ∀ text, ∃ stored, persister.encode (.text text) = .ok stored ∧ stored.isNull = false ∧
    persister.storedKind.accepts stored = true ∧ persister.decode stored = .ok (.text text)

namespace Field

/-- A stored text is read as the text that it is. -/
def ReadsAsIs (field : Field) (text : String) : Prop :=
  ∀ persister, field.decl.persister = some persister →
    persister.storedKind.accepts (.text text) = true ∧
      persister.decode (.text text) = .ok (.text text)

theorem readsAsIs_of_plain {field : Field} (plain : field.decl.persister = none) (text : String) :
    field.ReadsAsIs text := by
  intro persister persists
  rw [plain] at persists
  cases persists

theorem restore_text_eq_ok_iff (field : Field) (text : String) :
    field.restore (.text text) = .ok (.text text) ↔ field.ReadsAsIs text := by
  unfold restore ReadsAsIs
  cases field.decl.persister with
  | none => simp
  | some persister =>
    simp [Value.isNull, checkKind, bind_eq_ok_iff, require_eq_ok_iff, mapError_eq_ok_iff]

/-- A column of texts finds a stored text exactly if it reads that text as it is. -/
theorem map_asText?_decode_eq_ok_iff {field : Field} (kind : field.kind = .text) (text : String) :
    (field.decode (.text text)).map (·.asText?) = .ok (some text) ↔ field.ReadsAsIs text := by
  rw [← restore_text_eq_ok_iff, map_eq_ok_iff]
  constructor
  · intro ⟨held, decoded, same⟩
    obtain ⟨restored, _⟩ := (decode_eq_ok_iff _ _ _).mp decoded
    cases held with
    | text found =>
      cases same
      exact restored
    | _ => cases same
  · intro restored
    have checked : field.check (.text text) = .ok () :=
      (check_eq_ok_iff _ _ _).mpr ⟨by rw [kind]; rfl, fun _ => rfl⟩
    exact ⟨.text text, (decode_eq_ok_iff _ _ _).mpr ⟨restored, (), checked⟩, rfl⟩

end Field

namespace Session

/-- In a row that an object of a registered type is written as, the root finds what the type key
reads in place of the discriminator. That is the discriminator exactly if the type key reads it as
it is, which it does without a persister. -/
theorem discoverDiscriminator_toRow {session : Session} {root : Root} {context : Context}
    {table : Table} {key : Field} {row : Row} (reached : session.Reachable)
    (live : root ∈ session.store.roots)
    (coherent : Class.Coherent [root.cls, context.type.cls])
    (registered : context.type ∈ root.types) (listed : table ∈ context.entity.tables)
    (typeKey : table.typeKey = some key) (written : context.toRow table.name = .ok row) :
    let tag := context.type.discriminator
    discoverDiscriminator root.entity.tables row =
        (key.decode (.text tag)).map (·.asText?) ∧
      (discoverDiscriminator root.entity.tables row = .ok (some tag) ↔ key.ReadsAsIs tag) ∧
      (key.decl.persister = none → discoverDiscriminator root.entity.tables row = .ok (some tag)) := by
  intro tag
  have sound := reached.sound.store.roots root live
  have described := (sound.valid context.type registered).described
  obtain ⟨keys, keyspace, twin, columns, _, _, named, stored, rfl⟩ :=
    (Context.toRow_eq_ok_iff _ _ _).mp written
  obtain rfl : table = twin :=
    Option.some.inj ((Entity.table?_eq_of_mem described listed).symm.trans named)
  have found : discoverDiscriminator root.entity.tables
      (Row.ofColumns keyspace table.name columns) = (key.decode (.text tag)).map (·.asText?) := by
    have same := (sound.sameSteering registered coherent).tables
    rw [← discoverDiscriminator_eq_of_sameKeys same]
    exact Context.discoverDiscriminator_ofColumns described listed typeKey stored keyspace
  have kind : key.kind = .text :=
    (Entity.builtFrom_of_mem_tables described listed).typeKey_text key typeKey
  have exact : discoverDiscriminator root.entity.tables
      (Row.ofColumns keyspace table.name columns) = .ok (some tag) ↔ key.ReadsAsIs tag := by
    rw [found, Field.map_asText?_decode_eq_ok_iff kind]
  exact ⟨found, exact, fun plain => exact.mpr (Field.readsAsIs_of_plain plain tag)⟩

end Session

namespace Masquerade

/-- The words for dogs and cats change places; every other value stays. -/
def exchange : Value → Value
  | .text "dog" => .text "cat"
  | .text "cat" => .text "dog"
  | other => other

/-- Stores dogs as cats and cats as dogs. -/
def swapping : Persister where
  storedKind := .text
  encode value := .ok (exchange value)
  decode value := .ok (exchange value)

theorem exists_exchange_text (text : String) :
    ∃ other, exchange (.text text) = .text other ∧ exchange (.text other) = .text text := by
  by_cases dog : text = "dog"
  · exact ⟨"cat", by rw [dog]; rfl, by rw [dog]; rfl⟩
  · by_cases cat : text = "cat"
    · exact ⟨"dog", by rw [cat]; rfl, by rw [cat]; rfl⟩
    · have same : exchange (.text text) = .text text := by
        simp [exchange, dog, cat]
      exact ⟨text, same, same⟩

theorem swapping_lawful : swapping.Lawful := by
  intro text
  obtain ⟨other, stored, back⟩ := exists_exchange_text text
  exact ⟨.text other, congrArg _ stored, rfl, rfl, congrArg _ back⟩

/-- Guests, whose kind is stored with dogs and cats exchanged. -/
def guest : Class := .top
  { path := "ball::Guest"
    isRoot := true
    keyspace := some ⟨"ball", []⟩
    tables := ["guests"]
    fields := [(FieldDecl.ofColumn "id" .text).asPartitionKey 0,
      (FieldDecl.ofColumn "kind" .text).asTypeKey.persistedBy swapping] }

def shape (name path : String) : Shape :=
  ⟨name, path, path, [⟨"id", .string⟩, ⟨"kind", .option .string⟩]⟩

/-- A guest under some name, whose kind is not known. -/
def named (name path id : String) : Object := ⟨shape name path, .cons id (.cons none .nil)⟩

def dog : Class := .below
  { path := "ball::Dog"
    factory := some (named "Dog" "ball::Dog" "")
    discriminator := some "dog" } guest

def fox : Class := .below
  { path := "ball::Fox"
    factory := some (named "Fox" "ball::Fox" "")
    discriminator := some "fox" } guest

theorem coherent : Class.Coherent [guest, dog, fox] := by
  refine Class.coherent_of_nodup (by decide : ([guest, dog, fox].map (·.path)).Nodup) ?_
  have all : [guest, dog, fox].flatMap Class.ancestors = [guest, dog, guest, fox, guest] := rfl
  intro cls member
  rw [all] at member
  grind

/-- A session whose root has registered dogs and foxes. -/
def opened : Session :=
  ((({} : Session).run ⟨.addManager none, some "manager"⟩).2.2.run
    ⟨.rootEntity "manager" guest [dog, fox], some "guests"⟩).2.2

theorem reachable_opened : opened.Reachable := .step (.step .start _) _

def root : Root := opened.store.roots.head (by decide)

theorem root_live : root ∈ opened.store.roots := List.head_mem _

theorem root_cls : root.cls = guest := rfl

def dogType : TypeEntity := root.types.get ⟨0, by decide⟩

def foxType : TypeEntity := root.types.get ⟨1, by decide⟩

def dogContext : Context := ⟨dogType, named "Dog" "ball::Dog" "rex", rfl⟩

def foxContext : Context := ⟨foxType, named "Fox" "ball::Fox" "rex", rfl⟩

theorem foxContext_cls : foxContext.type.cls = fox := rfl

def guests : Table := root.entity.tables.head (by decide)

def kindField : Field :=
  ⟨(FieldDecl.ofColumn "kind" .text).asTypeKey.persistedBy swapping, "ball::Guest"⟩

/-- The row of a guest, which carries the kind as it is. -/
def row (kind : String) : Row :=
  .ofCells "ball" "guests" [⟨"id", .text "rex", none⟩, ⟨"kind", .text kind, none⟩]

theorem dogContext_toRow : dogContext.toRow guests.name = .ok (row "dog") := rfl

theorem foxContext_toRow : foxContext.toRow guests.name = .ok (row "fox") := rfl

/-- The row of a dog passes for the row of a cat. -/
theorem discoverDiscriminator_dog :
    discoverDiscriminator root.entity.tables (row "dog") = .ok (some "cat") := rfl

end Masquerade

/-- The tag of a fox is read as it is and comes back. -/
theorem Session.discoverDiscriminator_toRow_fox :
    Masquerade.foxContext.toRow Masquerade.guests.name = .ok (Masquerade.row "fox") ∧
      discoverDiscriminator Masquerade.root.entity.tables (Masquerade.row "fox") =
        .ok (some "fox") := by
  refine ⟨Masquerade.foxContext_toRow, ?_⟩
  have coherent : Class.Coherent [Masquerade.root.cls, Masquerade.foxContext.type.cls] :=
    Masquerade.coherent.mono (by simp [Masquerade.root_cls, Masquerade.foxContext_cls])
  obtain ⟨_, reads, _⟩ := discoverDiscriminator_toRow Masquerade.reachable_opened
    Masquerade.root_live coherent (List.get_mem _ _) (List.head_mem _) rfl
    Masquerade.foxContext_toRow
  refine reads.mpr ?_
  intro persister persists
  cases persists
  exact ⟨rfl, rfl⟩

/-- A persister that stores every text and gives it back is not enough for the tag to come back. -/
theorem Session.not_forall_discoverDiscriminator_toRow :
    ¬∀ (session : Session) (root : Root) (context : Context) (table : Table) (key : Field)
      (row : Row), session.Reachable → root ∈ session.store.roots →
      Class.Coherent (root.cls :: root.types.map (·.cls)) → context.type ∈ root.types →
      table ∈ context.entity.tables → table.typeKey = some key →
      (∀ persister, key.decl.persister = some persister → persister.Lawful) →
      context.toRow table.name = .ok row →
      discoverDiscriminator root.entity.tables row = .ok (some context.type.discriminator) := by
  intro always
  have classes : Masquerade.root.cls :: Masquerade.root.types.map (·.cls) =
      [Masquerade.guest, Masquerade.dog, Masquerade.fox] := rfl
  have lawful : ∀ persister, Masquerade.kindField.decl.persister = some persister →
      persister.Lawful := by
    intro persister persists
    cases persists
    exact Masquerade.swapping_lawful
  have same := always Masquerade.opened Masquerade.root Masquerade.dogContext Masquerade.guests
    Masquerade.kindField _ Masquerade.reachable_opened Masquerade.root_live
    (classes ▸ Masquerade.coherent) (List.get_mem _ _) (List.head_mem _) rfl lawful
    Masquerade.dogContext_toRow
  rw [Masquerade.discoverDiscriminator_dog] at same
  have tags : "cat" = "dog" := Option.some.inj (Except.ok.inj same)
  exact absurd tags (by decide)

end TypedRows
