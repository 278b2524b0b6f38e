import RecordIndex.Database.Records
import RecordIndex.Proofs.Table.Lookup

namespace RecordIndex

/-!
# The identities of a type

The range of the identities of a type holds all of them.  So the records of a
type are found in that range, as long as each record lies where its type
belongs.
-/

namespace Store

theorem isPrefixOf_iff (beginning text : String) :
    beginning.isPrefixOf text = true ↔ beginning.toList <+: text.toList :=
  String.startsWith_string_iff

/-- The key begins with the name of the type and an at sign. -/
def IsIdentity (typeName key : String) : Prop :=
  (typePrefix typeName).toList <+: key.toList

/-- The identity begins with the name of the type and an at sign. -/
theorem isPlaced_iff (key typeName : String) : checkKeyType key typeName = .ok () ↔
    IsIdentity typeName key := by
  unfold IsIdentity
  rw [← isPrefixOf_iff]
  unfold checkKeyType
  split
  · rename_i isBeginning
    exact ⟨fun _ => isBeginning, fun _ => rfl⟩
  · rename_i isNoBeginning
    exact ⟨nofun, fun isBeginning => absurd isBeginning isNoBeginning⟩

theorem compare_lt_iff {first second : String} :
    compare first second = .lt ↔ first < second := by
  change compareOfLessAndEq first second = .lt ↔ _
  unfold compareOfLessAndEq
  split
  · rename_i below
    exact ⟨fun _ => below, fun _ => rfl⟩
  · rename_i notBelow
    split
    · exact ⟨nofun, fun below => absurd below notBelow⟩
    · exact ⟨nofun, fun below => absurd below notBelow⟩

/-- Every identity of a type lies in its range. -/
theorem inRange_of_prefix {typeName key : String}
    (isBeginning : (typePrefix typeName).toList <+: key.toList) :
    ((typeRange typeName).1.startsBy key && (typeRange typeName).2.stopsAfter key) = true := by
  rcases isBeginning with ⟨rest, isKey⟩
  have start : (typePrefix typeName).toList = typeName.toList ++ ['@'] := by
    rw [typePrefix, String.toList_append]
    rfl
  have stop : (typeName ++ "A").toList = typeName.toList ++ ['A'] := by
    rw [String.toList_append]
    rfl
  refine Bool.and_eq_true_iff.mpr ⟨?_, ?_⟩
  · have notBefore : ¬ key < typePrefix typeName := by
      rw [String.lt_iff, ← isKey]
      exact List.not_lt.mpr List.le_append_left
    cases order : compare (typePrefix typeName) key with
    | lt => exact congrArg Ordering.isLE order
    | eq => exact congrArg Ordering.isLE order
    | gt => exact absurd (compare_lt_iff.mp (Std.OrientedCmp.lt_of_gt order)) notBefore
  · have before : key < typeName ++ "A" := by
      rw [String.lt_iff, ← isKey, start, stop, List.append_assoc]
      apply List.append_left_lt
      exact List.cons_lt_cons_iff.mpr (Or.inl (by decide))
    exact congrArg Ordering.isLT (compare_lt_iff.mpr before)

/-- What lies between two texts that only differ in their last letter, and of
these the second directly follows the first, begins with the first text. -/
theorem prefix_of_between {last next : Char} (follows : next.toNat = last.toNat + 1)
    {beginning text : List Char} (notBefore : ¬ text < beginning ++ [last])
    (before : text < beginning ++ [next]) : beginning ++ [last] <+: text := by
  induction beginning generalizing text with
  | nil =>
      cases text with
      | nil => exact absurd (List.nil_lt_cons last []) notBefore
      | cons c rest =>
          rw [List.nil_append] at notBefore before ⊢
          have same : last = c := by
            rcases List.cons_lt_cons_iff.mp before with less | ⟨_, none⟩
            · have notLess : ¬ c < last := fun less =>
                notBefore (List.cons_lt_cons_iff.mpr (.inl less))
              have less : c.toNat < next.toNat := less
              have notLess : ¬ c.toNat < last.toNat := notLess
              exact Char.toNat_inj.mp (by omega)
            · exact absurd none (List.not_lt_nil rest)
          exact ⟨rest, by rw [same]; rfl⟩
  | cons first beginning ih =>
      cases text with
      | nil => exact absurd (List.nil_lt_cons first _) notBefore
      | cons c rest =>
          rw [List.cons_append] at notBefore before ⊢
          rcases List.cons_lt_cons_iff.mp before with less | ⟨rfl, restBefore⟩
          · exact absurd (List.cons_lt_cons_iff.mpr (.inl less)) notBefore
          · have restNotBefore : ¬ rest < beginning ++ [last] := fun restBefore =>
              notBefore (List.cons_lt_cons_iff.mpr (.inr ⟨rfl, restBefore⟩))
            exact (List.prefix_cons_inj c).mpr (ih restNotBefore restBefore)

/-- Nothing but the identities of a type lies in its range. -/
theorem prefix_of_inRange {typeName key : String}
    (inRange : ((typeRange typeName).1.startsBy key && (typeRange typeName).2.stopsAfter key) =
      true) : (typePrefix typeName).toList <+: key.toList := by
  rcases Bool.and_eq_true_iff.mp inRange with ⟨starts, stops⟩
  have start : (typePrefix typeName).toList = typeName.toList ++ ['@'] := by
    rw [typePrefix, String.toList_append]
    rfl
  have stop : (typeName ++ "A").toList = typeName.toList ++ ['A'] := by
    rw [String.toList_append]
    rfl
  have notBefore : ¬ key < typePrefix typeName := by
    intro below
    have starts : (compare (typePrefix typeName) key).isLE = true := starts
    rw [Std.OrientedCmp.gt_of_lt (compare_lt_iff.mpr below)] at starts
    cases starts
  have before : key < typeName ++ "A" :=
    compare_lt_iff.mp (Ordering.isLT_iff_eq_lt.mp stops)
  rw [String.lt_iff, start] at notBefore
  rw [String.lt_iff, stop] at before
  rw [start]
  exact prefix_of_between rfl notBefore before

/-- The range of a type holds the identities of the type, and no other keys. -/
theorem inRange_iff (typeName key : String) :
    ((typeRange typeName).1.startsBy key && (typeRange typeName).2.stopsAfter key) = true ↔
      IsIdentity typeName key :=
  ⟨prefix_of_inRange, inRange_of_prefix⟩

/-- The records of a type, when each record lies where its type belongs. -/
theorem mem_recordsOfType_iff {store : Store}
    (isPlaced : forall key record, store.records.get? key = some record ->
      Write.checkPlace key record.typeName = .ok ()) {typeName key : String}
    {record : StoredRecord} : (key, record) ∈ store.recordsOfType typeName ↔
      store.records.get? key = some record ∧ record.typeName = some typeName := by
  unfold recordsOfType
  rw [List.mem_filter, Table.mem_range_iff, beq_iff_eq]
  constructor
  · rintro ⟨⟨isRecord, _⟩, isTyped⟩
    exact ⟨isRecord, isTyped⟩
  · rintro ⟨isRecord, isTyped⟩
    have placed := isPlaced key record isRecord
    rw [isTyped] at placed
    exact ⟨⟨isRecord, inRange_of_prefix ((isPlaced_iff key typeName).mp placed)⟩, isTyped⟩

theorem ascending_recordsOfType (store : Store) (typeName : String) :
    Rows.Ascending (store.recordsOfType typeName) :=
  List.Pairwise.filter _ (store.records.ascending_range _ _)

end Store

end RecordIndex
