import TypedRows.Proofs.KeyspaceResolution
import TypedRows.Proofs.KeyspaceReturn

/-! Which keyspaces an exclude list keeps out of reach. A value is looked up in the list as it is,
while a name is made of sanitized values, so the keyspace of an excluded value is reached by any
value outside the list that is sanitized alike. It is out of reach exactly if the list has every
spelling of each of its values. -/
namespace TypedRows

namespace Keyspace

theorem not_isLower_of_isDigit {c : Char} (digit : c.isDigit = true) : ¬c.isLower = true := by
  simp only [Char.isDigit, Char.isLower, Bool.and_eq_true, decide_eq_true_eq,
    UInt32.le_iff_toNat_le] at digit ⊢
  simp at digit ⊢
  omega

/-- A value that is sanitized to digits has no other spelling. -/
theorem sanitize_eq_self_of_digits {text : String}
    (digits : ∀ c ∈ (sanitize text).toList, c.isDigit = true) : sanitize text = text := by
  rw [sanitize, String.toList_map] at digits
  rw [← String.toList_inj, sanitize, String.toList_map]
  refine (List.map_congr_left fun c member => ?_).trans (List.map_id _)
  have digit := digits _ (List.mem_map_of_mem member)
  have kept : (if c.isAlphanum then c.toLower else '_') = c := by
    by_cases alphanumeric : c.isAlphanum = true
    · rw [if_pos alphanumeric] at digit ⊢
      rcases (Bool.or_eq_true _ _).mp alphanumeric with letter | own
      · have lower : c.toLower.isLower = true := by rw [Char.isLower_toLower_eq_isAlpha, letter]
        exact absurd lower (not_isLower_of_isDigit digit)
      · exact Char.toLower_eq_of_not_isUpper (not_isUpper_of_isDigit own)
    · rw [if_neg alphanumeric] at digit
      exact absurd digit (by decide)
  exact kept

variable {values others : List String}

theorem length_suffixText_le (separator : List Char)
    (longer : List.Forall₂
      (fun value other => (sanitize value).toList.length ≤ (sanitize other).toList.length)
      values others) :
    (suffixText separator values).length ≤ (suffixText separator others).length := by
  induction longer with
  | nil => rfl
  | cons here _ ih =>
    simp only [suffixText, List.flatMap_cons, List.length_append] at ih ⊢
    omega

/-- Where no value is longer than its counterpart, what they add to a name tells them apart whatever
the separator is. -/
theorem map_sanitize_eq_of_longer {separator : List Char}
    (longer : List.Forall₂
      (fun value other => (sanitize value).toList.length ≤ (sanitize other).toList.length)
      values others)
    (same : suffixText separator values = suffixText separator others) :
    values.map sanitize = others.map sanitize := by
  induction longer with
  | nil => rfl
  | @cons value other rest otherRest here later ih =>
    simp only [suffixText, List.flatMap_cons, List.append_assoc] at same
    have tails := List.append_cancel_left same
    have lengths := congrArg List.length tails
    have laterLengths := length_suffixText_le separator later
    simp only [List.length_append] at lengths
    rw [suffixText, suffixText] at laterLengths
    obtain ⟨heads, remaining⟩ := List.append_inj tails (by omega)
    rw [List.map_cons, List.map_cons, String.toList_inj.mp heads, ih remaining]

section

variable {ε : Type} {valueOf : String → Except ε String} {suffixTypes values others : List String}
  {suffixType text other : String} (done : suffixTypes.mapM valueOf = .ok values)

include done

theorem exists_mapM_update (suffixType other : String) : ∃ others,
    suffixTypes.mapM (Function.update valueOf suffixType (.ok other)) = .ok others := by
  refine exists_mapM_eq_ok_iff.mpr fun asked member => ?_
  rw [Function.update_apply]
  split
  · exact ⟨other, rfl⟩
  · obtain ⟨value, _, given⟩ := exists_mem_of_mapM_eq_ok done member
    exact ⟨value, given⟩

variable (otherDone :
    suffixTypes.mapM (Function.update valueOf suffixType (.ok other)) = .ok others)
  (taken : valueOf suffixType = .ok text)

include otherDone taken

theorem map_sanitize_update_iff (listed : suffixType ∈ suffixTypes) :
    values.map sanitize = others.map sanitize ↔ sanitize text = sanitize other := by
  rw [map_sanitize_eq_iff done otherDone]
  constructor
  · intro agree
    have here := agree suffixType listed
    rw [Function.update_self, taken] at here
    exact Except.ok.inj here
  · intro same asked member
    rw [Function.update_apply]
    split
    · rename_i own
      rw [own, taken]
      exact congrArg Except.ok same
    · rfl

theorem forall₂_update {related : String → String → Prop} (self : ∀ value, related value value)
    (here : related text other) : List.Forall₂ related values others := by
  refine forall₂_of_mapM_eq_ok done otherDone ?_
  intro asked _ value replaced given otherGiven
  rw [Function.update_apply] at otherGiven
  split at otherGiven
  · rename_i own
    rw [own, taken] at given
    cases given
    cases otherGiven
    exact here
  · rw [given] at otherGiven
    cases otherGiven
    exact self value

/-- No value or every value becomes longer, so what they add to a name tells them apart. -/
theorem suffixText_update_iff (separator : List Char) :
    suffixText separator values = suffixText separator others ↔
      values.map sanitize = others.map sanitize := by
  refine ⟨fun same => ?_, suffixText_congr⟩
  rcases le_total (sanitize text).toList.length (sanitize other).toList.length with less | less
  · exact map_sanitize_eq_of_longer
      (forall₂_update done otherDone taken (fun _ => le_rfl) less) same
  · have shorter : List.Forall₂
        (fun value other => (sanitize other).toList.length ≤ (sanitize value).toList.length)
        values others := forall₂_update done otherDone taken (fun _ => le_rfl) less
    exact (map_sanitize_eq_of_longer shorter.flip same.symm).symm

end

theorem resolve_update_eq_ok_iff {ε : Type} {keyspace : Keyspace} {naming : Naming}
    {valueOf : String → Except ε String} {name suffixType text other : String}
    (resolved : keyspace.resolve naming valueOf = .ok name)
    (listed : suffixType ∈ keyspace.suffixes) (taken : valueOf suffixType = .ok text) :
    keyspace.resolve naming (Function.update valueOf suffixType (.ok other)) = .ok name ↔
      sanitize text = sanitize other := by
  obtain ⟨values, done, spelled⟩ := resolve_eq_ok_iff.mp resolved
  obtain ⟨others, otherDone⟩ := exists_mapM_update done suffixType other
  rw [← map_sanitize_update_iff done otherDone taken listed,
    ← suffixText_update_iff done otherDone taken naming.separator.toList, resolve_eq_ok_iff]
  constructor
  · rintro ⟨_, again, otherSpelled⟩
    obtain rfl := Except.ok.inj (otherDone.symm.trans again)
    exact List.append_cancel_left (spelled.symm.trans otherSpelled)
  · intro same
    exact ⟨others, otherDone, same ▸ spelled⟩

end Keyspace

namespace Field

/-- Whatever is sanitized like an excluded value is excluded as well. -/
def ExcludesSpellings (key : Field) : Prop :=
  ∀ excluded ∈ key.excluded, ∀ text,
    Keyspace.sanitize text = Keyspace.sanitize excluded → text ∈ key.excluded

theorem excludesSpellings_of_digits {key : Field}
    (numbers : ∀ excluded ∈ key.excluded, ∀ c ∈ excluded.toList, c.isDigit = true) :
    key.ExcludesSpellings := by
  intro excluded listed text alike
  have own : Keyspace.sanitize excluded = excluded := by
    refine Keyspace.sanitize_eq_self fun c member => ?_
    simp [Keyspace.isNameChar, numbers excluded listed c member]
  rw [own] at alike
  have same : Keyspace.sanitize text = text :=
    Keyspace.sanitize_eq_self_of_digits fun c member =>
      numbers excluded listed c (alike ▸ member)
  rw [← same, alike]
  exact listed

theorem exists_not_mem_excluded (key : Field) : ∃ text, text ∉ key.excluded := by
  obtain ⟨text, free⟩ := Infinite.exists_notMem_finset key.excluded.toFinset
  exact ⟨text, by simpa using free⟩

end Field

namespace Entity

/-- The name that comes out if one suffix type has another text than the key values give it. -/
def resolveWith (entity : Entity) (keys : KeyValues) (suffixType text : String) :
    Except ConversionError String :=
  entity.keyspace.resolve entity.settings.naming
    (Function.update (entity.suffixValue keys) suffixType (.ok text))

/-- Whatever the key values are, the part of a name for the suffix type is none that an excluded
value would have made, and so the name is none. -/
def OutOfReach (entity : Entity) (suffixType : String) (key : Field) : Prop :=
  ∀ keys name text, entity.resolveKeyspace keys = .ok name → key.Gives keys text →
    ∀ excluded ∈ key.excluded, Keyspace.sanitize text ≠ Keyspace.sanitize excluded ∧
      entity.resolveWith keys suffixType excluded ≠ .ok name

variable {entity : Entity} {boundary : Boundary}

/-- There are key values for any texts that the keyspace keys do not exclude. -/
theorem exists_keys_giving (described : entity.Describes boundary) {texts : Field → String}
    (allowed : ∀ key ∈ entity.keyspaceKeys, texts key ∉ key.excluded) :
    ∃ keys, ∀ key ∈ entity.keyspaceKeys, key.Gives keys (texts key) := by
  refine ⟨entity.keyspaceKeys.map fun key => (key.columnName, .text (texts key)), ?_⟩
  intro key member
  have ascending : Keyed.Ascending (·.1)
      (entity.keyspaceKeys.map fun key => (key.columnName, Value.text (texts key))) :=
    List.pairwise_map.mpr (ascending_keyspaceKeys described)
  have supplied := (KeyValues.lookup_eq_some_iff ascending _).mpr
    (List.mem_map.mpr ⟨key, member, rfl⟩)
  exact (Field.gives_text_iff supplied).mpr ⟨rfl, allowed key member⟩

theorem resolveWith_eq_ok_iff {keys : KeyValues} {name suffixType text other : String} {key : Field}
    (described : entity.Describes boundary) (listed : suffixType ∈ entity.keyspace.suffixes)
    (covers : entity.Covers suffixType key) (resolved : entity.resolveKeyspace keys = .ok name)
    (gives : key.Gives keys text) :
    entity.resolveWith keys suffixType other = .ok name ↔
      Keyspace.sanitize text = Keyspace.sanitize other :=
  Keyspace.resolve_update_eq_ok_iff resolved listed
    ((suffixValue_eq_ok_iff_gives described covers).mpr gives)

/-- A value that is not excluded is as good as any other, so a list without some spelling of one of
its values lets that spelling through to a name. -/
theorem excludesSpellings_of_outOfReach {suffixType : String} {key : Field}
    (described : entity.Describes boundary) (covers : entity.Covers suffixType key)
    (safe : entity.OutOfReach suffixType key) : key.ExcludesSpellings := by
  intro excluded listed text alike
  by_contra free
  classical
  choose fresh unlisted using Field.exists_not_mem_excluded
  have allowed : ∀ other ∈ entity.keyspaceKeys,
      Function.update fresh key text other ∉ other.excluded := by
    intro other _
    rw [Function.update_apply]
    split
    · rename_i same
      exact same ▸ free
    · exact unlisted other
  obtain ⟨keys, gives⟩ := exists_keys_giving described allowed
  obtain ⟨name, resolved⟩ := (resolvesThroughCovers described keys).succeeds.mpr
    fun _ _ other also => ⟨_, gives other also.listed⟩
  have given := gives key covers.listed
  rw [Function.update_self] at given
  exact (safe keys name text resolved given excluded listed).1 alike

/-- An exclude list keeps the keyspaces of its values out of reach exactly if it has every spelling
of them. In any case no excluded value is itself taken, and the name that comes out is the one of an
excluded value exactly if the value that is taken is another spelling of it. -/
theorem outOfReach_of_introspect {settings : Settings} {boundary : Boundary} {cls : Class}
    {entity : Entity} (introspected : introspect settings boundary cls = .ok entity) :
    ∀ suffixType ∈ entity.keyspace.suffixes, ∀ key, entity.Covers suffixType key →
      (entity.OutOfReach suffixType key ↔ key.ExcludesSpellings) ∧
      ∀ keys name text, entity.resolveKeyspace keys = .ok name → key.Gives keys text →
        ∀ excluded ∈ key.excluded, text ≠ excluded ∧
          (entity.resolveWith keys suffixType excluded = .ok name ↔
            Keyspace.sanitize text = Keyspace.sanitize excluded) := by
  obtain ⟨_, _, described⟩ := (introspect_eq_ok_iff _ _ _ _).mp introspected
  intro suffixType listed key covers
  have reaches {keys : KeyValues} {name text : String}
      (resolved : entity.resolveKeyspace keys = .ok name) (gives : key.Gives keys text)
      (excluded : String) : entity.resolveWith keys suffixType excluded = .ok name ↔
        Keyspace.sanitize text = Keyspace.sanitize excluded :=
    resolveWith_eq_ok_iff described listed covers resolved gives
  refine ⟨⟨excludesSpellings_of_outOfReach described covers, ?_⟩, ?_⟩
  · intro spellings keys name text resolved gives excluded member
    have apart : Keyspace.sanitize text ≠ Keyspace.sanitize excluded :=
      fun alike => gives.allowed (spellings excluded member text alike)
    exact ⟨apart, fun same => apart ((reaches resolved gives excluded).mp same)⟩
  · intro keys name text resolved gives excluded member
    exact ⟨fun same => gives.allowed (same ▸ member), reaches resolved gives excluded⟩

end Entity

namespace Harbour

/-- A vessel that is black, but for the spelling. -/
def disguised : KeyValues := [("berth", .uint 7), ("colour", .text "Black")]

theorem sanitize_disguised : Keyspace.sanitize "Black" = Keyspace.sanitize "black" := by
  rw [← String.toList_inj, Keyspace.sanitize, Keyspace.sanitize, String.toList_map,
    String.toList_map]
  simp

theorem colour_gives : colour.Gives disguised "Black" :=
  (Field.gives_text_iff rfl).mpr ⟨rfl, by decide⟩

theorem berth_excludesSpellings : berth.ExcludesSpellings := by
  refine Field.excludesSpellings_of_digits fun excluded listed c member => ?_
  obtain rfl : excluded = "0" := List.mem_singleton.mp listed
  obtain rfl : c = '0' := List.mem_singleton.mp member
  rfl

theorem colour_not_excludesSpellings : ¬colour.ExcludesSpellings := fun spellings =>
  absurd (spellings "black" List.mem_cons_self "Black" sanitize_disguised) (by decide)

theorem exists_name {entity : Entity} (vessel : Described entity) :
    ∃ name, entity.resolveKeyspace disguised = .ok name := by
  obtain ⟨_, _, described⟩ := (Entity.introspect_eq_ok_iff _ _ _ _).mp vessel.introspected
  refine ⟨_, ((Entity.resolvesThroughCovers described _).named _).mpr ⟨["Black", "7"], ?_, rfl⟩⟩
  rw [vessel.keyspace]
  exact .cons ⟨_, vessel.flag, colour_gives⟩
    (.cons ⟨_, vessel.berth, ⟨.uint 7, rfl, by simp, rfl⟩, by decide⟩ .nil)

end Harbour

/-- No spelling leads to the berth that is excluded, while the disguised vessel is let into the
keyspace of the black ones. -/
theorem Entity.outOfReach_of_introspect_vessel :
    ∃ entity, introspect {} .root Harbour.vessel = .ok entity ∧
      entity.OutOfReach "berth" Harbour.berth ∧
      ∃ name, entity.resolveKeyspace Harbour.disguised = .ok name ∧
        entity.resolveWith Harbour.disguised "flag" "black" = .ok name := by
  obtain ⟨entity, vessel⟩ := Harbour.exists_described
  obtain ⟨name, resolved⟩ := Harbour.exists_name vessel
  have listed : ∀ suffixType ∈ ["flag", "berth"], suffixType ∈ entity.keyspace.suffixes := by
    rw [vessel.keyspace]
    exact fun _ => id
  obtain ⟨berths, _⟩ := outOfReach_of_introspect vessel.introspected "berth"
    (listed _ (by decide)) _ vessel.berth
  obtain ⟨_, colours⟩ := outOfReach_of_introspect vessel.introspected "flag"
    (listed _ (by decide)) _ vessel.flag
  obtain ⟨_, same⟩ := colours _ name "Black" resolved Harbour.colour_gives "black"
    List.mem_cons_self
  exact ⟨entity, vessel.introspected, berths.mpr Harbour.berth_excludesSpellings, name, resolved,
    same.mpr Harbour.sanitize_disguised⟩

/-- Introspection accepts exclude lists without every spelling of their values. -/
theorem Entity.not_forall_outOfReach :
    ¬∀ settings boundary cls entity, introspect settings boundary cls = .ok entity →
      ∀ suffixType ∈ entity.keyspace.suffixes, ∀ key, entity.Covers suffixType key →
        entity.OutOfReach suffixType key := by
  intro safe
  obtain ⟨entity, vessel⟩ := Harbour.exists_described
  obtain ⟨_, _, described⟩ := (introspect_eq_ok_iff _ _ _ _).mp vessel.introspected
  have listed : "flag" ∈ entity.keyspace.suffixes := by
    rw [vessel.keyspace]
    exact List.mem_cons_self
  exact Harbour.colour_not_excludesSpellings (excludesSpellings_of_outOfReach described vessel.flag
    (safe _ _ _ entity vessel.introspected _ listed _ vessel.flag))

end TypedRows
