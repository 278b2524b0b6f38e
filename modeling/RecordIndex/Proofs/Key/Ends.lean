import RecordIndex.Proofs.Key.Order

namespace RecordIndex

/-!
# Ends of ranges

The keys that begin with some bytes are a range: from these bytes on up to the
end that is computed for them.  The end is the beginning with its last byte
raised, after trailing bytes that cannot be raised are dropped.  It is the least
key behind all that begin so; where there is none, all bytes are the largest
one, and every key from these bytes on begins with them.

The identities of a type are a range in the same way, since the letter that
ends the range directly follows the at sign.
-/

namespace Key

theorem toNat_succ {byte : UInt8} (room : byte.toNat < 255) :
    (byte + 1).toNat = byte.toNat + 1 := by
  rw [UInt8.toNat_add]
  change (byte.toNat + 1) % 256 = byte.toNat + 1
  omega

/-- A byte by itself is not behind what begins with it or with a larger one. -/
theorem isLE_compare_singleton {byte byte' : UInt8} (reached : byte.toNat ≤ byte'.toNat)
    (rest : Key) : (compare [byte] (byte' :: rest)).isLE = true := by
  rcases Nat.lt_or_eq_of_le reached with less | same
  · rw [compare_cons_of_lt less]
    rfl
  · rw [UInt8.toNat_inj.mp same]
    exact isLE_compare_append [byte'] rest

/-- Of an end, either what follows the first byte is raised, or the first byte. -/
theorem prefixEnd?_cons_eq_some {byte : UInt8} {rest stop : Key}
    (isEnd : prefixEnd? (byte :: rest) = some stop) :
    (∃ later, prefixEnd? rest = some later ∧ stop = byte :: later) ∨
      prefixEnd? rest = none ∧ byte.toNat < 255 ∧ stop = [byte + 1] := by
  unfold prefixEnd? at isEnd
  split at isEnd
  · rename_i later isLater
    exact .inl ⟨later, isLater, (Option.some.inj isEnd).symm⟩
  · rename_i noLater
    split at isEnd
    · rename_i room
      exact .inr ⟨noLater, room, (Option.some.inj isEnd).symm⟩
    · cases isEnd

theorem prefixEnd?_cons_eq_none {byte : UInt8} {rest : Key} :
    prefixEnd? (byte :: rest) = none ↔ byte = 255 ∧ prefixEnd? rest = none := by
  have largest : byte = 255 ↔ ¬ byte < 255 := by
    have range := byte.toNat_lt
    rw [UInt8.lt_iff_toNat_lt, ← UInt8.toNat_inj]
    change byte.toNat = 255 ↔ ¬ byte.toNat < 255
    omega
  rw [largest, prefixEnd?]
  cases prefixEnd? rest with
  | some later => exact iff_of_false nofun fun both => nomatch both.2
  | none => simp only [ite_eq_right_iff, reduceCtorEq, imp_false, and_true]

/-- Only bytes that are all the largest one have no end. -/
theorem prefixEnd?_eq_none_iff (beginning : Key) :
    prefixEnd? beginning = none ↔ ∀ byte ∈ beginning, byte = 255 := by
  induction beginning with
  | nil => exact iff_of_true rfl nofun
  | cons byte rest ih => rw [prefixEnd?_cons_eq_none, List.forall_mem_cons, ih]

/-- No key is behind those that begin with a smaller byte. -/
theorem not_isLE_compare_cons {byte byte' : UInt8} (less : byte'.toNat < byte.toNat)
    (rest key : Key) : ¬ (compare (byte :: rest) (byte' :: key)).isLE = true :=
  Std.OrientedCmp.not_isLE_of_lt (compare_cons_of_lt less key rest)

/-- Without an end, the keys from the bytes on are those that begin with them. -/
theorem prefix_iff_of_noEnd {beginning : Key} (noEnd : prefixEnd? beginning = none) (key : Key) :
    beginning <+: key ↔ (compare beginning key).isLE = true := by
  induction beginning generalizing key with
  | nil => exact iff_of_true List.nil_prefix (isLE_compare_append [] key)
  | cons byte rest ih =>
      obtain ⟨largest, noLater⟩ := prefixEnd?_cons_eq_none.mp noEnd
      cases key with
      | nil => exact iff_of_false (fun beginning => nomatch List.prefix_nil.mp beginning) nofun
      | cons byte' key =>
          have range : byte'.toNat ≤ byte.toNat := by
            rw [largest]
            exact Nat.le_of_lt_succ byte'.toNat_lt
          rw [List.cons_prefix_cons]
          rcases Nat.lt_or_eq_of_le range with less | same
          · refine iff_of_false (fun both => ?_) (not_isLE_compare_cons less rest key)
            exact absurd (congrArg UInt8.toNat both.1) (Nat.ne_of_gt less)
          · obtain rfl := UInt8.toNat_inj.mp same
            rw [and_iff_right rfl, compare_cons_self]
            exact ih noLater key

/-- No key that begins with a larger byte is before the end. -/
theorem isLE_prefixEnd?_cons {byte byte' : UInt8} {rest stop : Key}
    (isEnd : prefixEnd? (byte :: rest) = some stop) (less : byte.toNat < byte'.toNat) (key : Key) :
    (compare stop (byte' :: key)).isLE = true := by
  rcases prefixEnd?_cons_eq_some isEnd with ⟨later, _, rfl⟩ | ⟨_, room, rfl⟩
  · rw [compare_cons_of_lt less]
    rfl
  · apply isLE_compare_singleton
    rw [toNat_succ room]
    exact less

/-- The keys that begin with some bytes lie between these bytes and their end. -/
theorem prefix_iff_of_isEnd {beginning stop : Key} (isEnd : prefixEnd? beginning = some stop)
    (key : Key) :
    beginning <+: key ↔ (compare beginning key).isLE = true ∧ compare key stop = .lt := by
  induction beginning generalizing stop key with
  | nil => cases isEnd
  | cons byte rest ih =>
      cases key with
      | nil =>
          exact iff_of_false (fun beginning => nomatch List.prefix_nil.mp beginning)
            fun both => nomatch both.1
      | cons byte' key =>
          rw [List.cons_prefix_cons]
          -- A smaller byte is before the beginning, and a larger one is not before the end.  The
          -- same byte leaves it to what follows.
          rcases Nat.lt_trichotomy byte.toNat byte'.toNat with less | same | greater
          · refine iff_of_false (fun both => ?_) fun both => ?_
            · exact absurd (congrArg UInt8.toNat both.1) (Nat.ne_of_lt less)
            · exact Std.OrientedCmp.not_lt_of_isLE (isLE_prefixEnd?_cons isEnd less key) both.2
          · obtain rfl := UInt8.toNat_inj.mp same
            rw [and_iff_right rfl, compare_cons_self]
            rcases prefixEnd?_cons_eq_some isEnd with ⟨later, isLater, rfl⟩ | ⟨noLater, room, rfl⟩
            · rw [compare_cons_self]
              exact ih isLater key
            · have before : compare (byte :: key) [byte + 1] = .lt :=
                compare_cons_of_lt (by rw [toNat_succ room]; exact Nat.lt_succ_self _) key []
              rw [and_iff_left before]
              exact prefix_iff_of_noEnd noLater key
          · refine iff_of_false (fun both => ?_) fun both => ?_
            · exact absurd (congrArg UInt8.toNat both.1) (Nat.ne_of_gt greater)
            · exact not_isLE_compare_cons greater rest key both.1

/-! ## The least key behind -/

/-- The key comes after all that begin with some bytes. -/
def IsBehind (beginning bound : Key) : Prop :=
  forall key, beginning <+: key -> compare key bound = .lt

theorem IsBehind.of_isEnd {beginning stop : Key} (isEnd : prefixEnd? beginning = some stop) :
    IsBehind beginning stop :=
  fun key begins => ((prefix_iff_of_isEnd isEnd key).mp begins).2

/-- What is behind the keys that begin with some bytes comes after these bytes,
but does not begin with them. -/
theorem IsBehind.not_prefix {beginning bound : Key} (behind : IsBehind beginning bound) :
    (compare beginning bound).isLE = true ∧ ¬ beginning <+: bound := by
  constructor
  · rw [behind beginning List.prefix_rfl]
    rfl
  · intro begins
    have before := behind bound begins
    rw [Rows.compare_self] at before
    cases before

/-- The key comes after all that begin with some bytes, and there is none before
it that does. -/
def IsLeastBehind (beginning stop : Key) : Prop :=
  IsBehind beginning stop ∧ forall bound, IsBehind beginning bound ->
    (compare stop bound).isLE = true

theorem IsLeastBehind.of_isEnd {beginning stop : Key} (isEnd : prefixEnd? beginning = some stop) :
    IsLeastBehind beginning stop := by
  refine ⟨.of_isEnd isEnd, fun bound behind => ?_⟩
  obtain ⟨after, apart⟩ := behind.not_prefix
  rw [Ordering.isLE_iff_ne_gt, Std.OrientedCmp.gt_iff_lt]
  exact fun before => apart ((prefix_iff_of_isEnd isEnd bound).mpr ⟨after, before⟩)

/-- Without an end, nothing is behind. -/
theorem not_isBehind {beginning : Key} (noEnd : prefixEnd? beginning = none) (bound : Key) :
    ¬ IsBehind beginning bound := by
  intro behind
  obtain ⟨after, apart⟩ := behind.not_prefix
  exact apart ((prefix_iff_of_noEnd noEnd bound).mpr after)

/-- The end is the one key that is least behind. -/
theorem prefixEnd?_eq_some_iff {beginning stop : Key} :
    prefixEnd? beginning = some stop ↔ IsLeastBehind beginning stop := by
  refine ⟨.of_isEnd, fun least => ?_⟩
  cases isEnd : prefixEnd? beginning with
  | none => exact absurd least.1 (not_isBehind isEnd stop)
  | some stop' =>
      have least' := IsLeastBehind.of_isEnd isEnd
      have same := Std.OrientedCmp.isLE_antisymm (least'.2 stop least.1) (least.2 stop' least'.1)
      rw [Std.LawfulEqCmp.eq_of_compare same]

/-- A key of the same length that is behind is at or behind the end. -/
theorem isLE_prefixEnd {beginning other stop : Key} (lengths : beginning.length = other.length)
    (isEnd : prefixEnd? beginning = some stop) (below : compare beginning other = .lt)
    (rest : Key) : (compare stop (other ++ rest)).isLE = true := by
  have after := compare_append_of_length lengths below [] rest
  rw [List.append_nil] at after
  rw [Ordering.isLE_iff_ne_gt, Std.OrientedCmp.gt_iff_lt]
  intro before
  have begins := (prefix_iff_of_isEnd isEnd (other ++ rest)).mpr ⟨by rw [after]; rfl, before⟩
  have same := List.prefix_of_prefix_length_le begins (List.prefix_append other rest)
    (Nat.le_of_eq lengths)
  exact not_prefix_of_lt lengths below same

/-- The keys that begin with some bytes are those from these bytes on up to
their end, which is the least key behind them all.  There is no end exactly when
all the bytes are the largest one, and then all keys from the bytes on begin with
them.  In the same way the keys between the name of a type with an at sign and the
name with an A are those that begin with the former. -/
theorem prefixEnd_bounds (beginning : Key) :
    (forall key, match prefixEnd? beginning with
      | some stop => beginning <+: key ↔
          (compare beginning key).isLE = true ∧ compare key stop = .lt
      | none => beginning <+: key ↔ (compare beginning key).isLE = true) ∧
    (forall stop, prefixEnd? beginning = some stop ↔ IsLeastBehind beginning stop) ∧
    (prefixEnd? beginning = none ↔ ∀ byte ∈ beginning, byte = 255) ∧
    forall typeName key : String,
      ((Store.typeRange typeName).1.startsBy key && (Store.typeRange typeName).2.stopsAfter key) =
          true ↔ (typeName ++ "@").toList <+: key.toList := by
  refine ⟨fun key => ?_, fun stop => prefixEnd?_eq_some_iff, prefixEnd?_eq_none_iff beginning,
    Store.inRange_iff⟩
  split
  · rename_i stop isEnd
    exact prefix_iff_of_isEnd isEnd key
  · rename_i noEnd
    exact prefix_iff_of_noEnd noEnd key

example : prefixEnd? [7, 255, 255] = some [8] := by decide

end Key

end RecordIndex
