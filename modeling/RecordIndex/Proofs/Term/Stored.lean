import RecordIndex.Proofs.Term.Counts
import RecordIndex.Proofs.Term.Pruning
import RecordIndex.Proofs.Value.Stored

namespace RecordIndex

/-!
# Terms before and after storing

A value is indexed when it is written and looked up in the index again when it
has been read back.  Both times it has the same terms, but for the undefined
items of arrays.  An item that is not there has no term; where undefined is not
kept it is stored as null, so that the items behind it keep their positions,
and null has one.
-/

namespace Value

mutual

/-- No string is taken for a tag, and every expression has the flags of a
literal. -/
def Unreserved : Value -> Prop
  | .string text => decodeString text = .string text
  | .regExp _ flags => flags.toList.all isLiteralFlag = true
  | .array items => UnreservedItems items
  | .object fields => UnreservedFields fields
  | _ => True
termination_by structural value => value

def UnreservedItems : List Value -> Prop
  | [] => True
  | item :: rest => Unreserved item ∧ UnreservedItems rest
termination_by structural items => items

def UnreservedFields : List (String × Value) -> Prop
  | [] => True
  | (_, value) :: rest => Unreserved value ∧ UnreservedFields rest
termination_by structural fields => fields

end

mutual

/-- The paths of the undefined items of arrays, at any depth, for a value at
the end of a path. -/
def holes (path : List String) : Value -> List (List String)
  | .array items => holesOfItems path 0 items
  | .object fields => holesOfFields path fields
  | _ => []
termination_by structural value => value

def holesOfItems (path : List String) (index : Nat) : List Value -> List (List String)
  | [] => []
  | item :: rest =>
      (if item.isUndefined then [path ++ [Nat.repr index]]
        else holes (path ++ [Nat.repr index]) item) ++ holesOfItems path (index + 1) rest
termination_by structural items => items

def holesOfFields (path : List String) : List (String × Value) -> List (List String)
  | [] => []
  | (name, value) :: rest => holes (path ++ [name]) value ++ holesOfFields path rest
termination_by structural fields => fields

end

mutual

/-- Every hole lies beneath the value. -/
theorem append_of_mem_holes {hole path : List String} :
    forall value : Value, hole ∈ value.holes path -> ∃ rest, hole = path ++ rest
  | .array items, member => append_of_mem_holesOfItems 0 items member
  | .object fields, member => append_of_mem_holesOfFields fields member

theorem append_of_mem_holesOfItems {hole path : List String} :
    forall (index : Nat) (items : List Value), hole ∈ holesOfItems path index items ->
      ∃ rest, hole = path ++ rest
  | index, item :: rest, member => by
      rw [holesOfItems] at member
      rcases List.mem_append.mp member with here | later
      · split at here
        · exact ⟨[Nat.repr index], List.mem_singleton.mp here⟩
        · rcases append_of_mem_holes item here with ⟨behind, rfl⟩
          exact ⟨Nat.repr index :: behind, List.append_assoc _ _ _⟩
      · exact append_of_mem_holesOfItems (index + 1) rest later

theorem append_of_mem_holesOfFields {hole path : List String} :
    forall fields : List (String × Value), hole ∈ holesOfFields path fields ->
      ∃ rest, hole = path ++ rest
  | (name, value) :: rest, member => by
      rw [holesOfFields] at member
      rcases List.mem_append.mp member with here | later
      · rcases append_of_mem_holes value here with ⟨behind, rfl⟩
        exact ⟨name :: behind, List.append_assoc _ _ _⟩
      · exact append_of_mem_holesOfFields rest later

end

end Value

namespace Deriver

open Value

/-! ## Scalars -/

/-- A number is indexed alike before and after storing. -/
theorem leafKeys_storedNumber (deriver : Deriver) (n : Number) :
    (deriver.leafParts (.number (storedNumber n))).map KeyPart.encode =
      (deriver.leafParts (.number n)).map KeyPart.encode := by
  have parts (n : Number) : deriver.leafParts (.number n) =
      if n.isNaN then [.text "@NaN"] else [.number n] := by
    change (if n.isNaN then _ else _ : Option KeyPart).toList = _
    cases notNumber : n.isNaN with
    | true =>
        have infinite : n.isFinite = false :=
          decide_eq_false (Nat.not_lt.mpr (Nat.le_of_lt (of_decide_eq_true notNumber)))
        change ((if n.isFinite then none else some (numberTag n)).map KeyPart.text).toList = _
        unfold numberTag
        rw [infinite, notNumber]
        rfl
    | false => rfl
  unfold storedNumber
  rw [parts, parts]
  cases notNumber : n.isNaN with
  | true => rfl
  | false =>
      rw [if_neg Bool.false_ne_true, isNaN_keyed notNumber]
      exact congrArg (fun key => [key]) (KeyPart.encode_keyed (.number n))

theorem termKeys_congr (deriver : Deriver) (path : List String) {first second : Value}
    (parts : (deriver.leafParts first).map KeyPart.encode =
      (deriver.leafParts second).map KeyPart.encode) :
    (deriver.leafTerms path first).map Term.encode =
      (deriver.leafTerms path second).map Term.encode := by
  have keys (scalar : Value) :
      ((deriver.leafParts scalar).map fun leaf => (⟨path, leaf⟩ : Term)).map Term.encode =
        ((deriver.leafParts scalar).map KeyPart.encode).map (Term.encodePath path ++ ·) := by
    rw [List.map_map, List.map_map]
    rfl
  unfold leafTerms
  split
  · rfl
  · rw [keys, keys, parts]

theorem leafTerms_undefined (deriver : Deriver) (path : List String) :
    deriver.leafTerms path .undefined = [] := by
  unfold leafTerms
  split
  · rfl
  · rfl

/-! ## Holes -/

/-- The keys that come to the terms of a value by storing it: those of the
nulls in its holes, where they are indexed. -/
def holeKeys (deriver : Deriver) (keepUndefined : Bool) (holes : List (List String)) : List Key :=
  if keepUndefined then []
  else (holes.filter (deriver.withinDeclared nameAdmits)).map fun path =>
    (⟨path, .null⟩ : Term).encode

theorem holeKeys_nil (deriver : Deriver) (keepUndefined : Bool) :
    deriver.holeKeys keepUndefined [] = [] := by
  cases keepUndefined with
  | true => rfl
  | false => rfl

theorem holeKeys_append (deriver : Deriver) (keepUndefined : Bool)
    (first second : List (List String)) :
    deriver.holeKeys keepUndefined (first ++ second) =
      deriver.holeKeys keepUndefined first ++ deriver.holeKeys keepUndefined second := by
  cases keepUndefined with
  | true => rfl
  | false =>
      change ((first ++ second).filter _).map _ = _
      rw [List.filter_append, List.map_append]
      rfl

/-- Nothing is indexed off the declared paths. -/
theorem holeKeys_of_not_leads {deriver : Deriver} {path : List String} (keepUndefined : Bool)
    {holes : List (List String)} (astray : deriver.leadsToDeclared nameAdmits path = false)
    (beneath : ∀ hole ∈ holes, ∃ rest, hole = path ++ rest) :
    deriver.holeKeys keepUndefined holes = [] := by
  cases keepUndefined with
  | true => rfl
  | false =>
      refine List.map_eq_nil_iff.mpr (List.filter_eq_nil_iff.mpr fun hole member within => ?_)
      rcases beneath hole member with ⟨rest, rfl⟩
      rw [leadsToDeclared_of_withinDeclared rest within] at astray
      cases astray

/-- No null is indexed when undefined is kept or every hole lies off the
declared paths. -/
theorem holeKeys_eq_nil_iff (deriver : Deriver) (keepUndefined : Bool)
    (holes : List (List String)) :
    deriver.holeKeys keepUndefined holes = [] ↔
      keepUndefined = true ∨ ∀ hole ∈ holes, deriver.withinDeclared nameAdmits hole = false := by
  cases keepUndefined with
  | true => exact ⟨fun _ => .inl rfl, fun _ => rfl⟩
  | false =>
      refine List.map_eq_nil_iff.trans (List.filter_eq_nil_iff.trans ?_)
      constructor
      · exact fun off => .inr fun hole member => Bool.eq_false_iff.mpr (off hole member)
      · intro off hole member
        rcases off with kept | off
        · cases kept
        · exact Bool.eq_false_iff.mp (off hole member)

/-! ## The terms of what is stored -/

theorem perm_append_append {first first' second second' gaps gaps' : List Key}
    (perm : first'.Perm (first ++ gaps)) (perm' : second'.Perm (second ++ gaps')) :
    (first' ++ second').Perm ((first ++ second) ++ (gaps ++ gaps')) := by
  refine (perm.append perm').trans ?_
  rw [List.append_assoc, List.append_assoc]
  exact (List.perm_append_comm_assoc gaps second gaps').append_left first

/-- A scalar has no holes and is indexed alike before and after. -/
theorem perm_of_leafKeys {deriver : Deriver} (keepUndefined : Bool) (path : List String)
    (before after : Value)
    (keys : (deriver.leafParts after).map KeyPart.encode =
      (deriver.leafParts before).map KeyPart.encode) :
    ((deriver.leafTerms path after).map Term.encode).Perm
      ((deriver.leafTerms path before).map Term.encode ++ deriver.holeKeys keepUndefined []) := by
  rw [termKeys_congr deriver path keys, holeKeys_nil, List.append_nil]

/-- An undefined item becomes a hole unless undefined is kept. -/
theorem perm_undefined (deriver : Deriver) (keepUndefined : Bool) (path : List String)
    (name : String) :
    ((deriver.termsAt (path ++ [name])
        (if keepUndefined then .undefined else .null)).map Term.encode).Perm
      ((deriver.termsAt (path ++ [name]) .undefined).map Term.encode ++
        deriver.holeKeys keepUndefined [path ++ [name]]) := by
  have none : deriver.termsAt (path ++ [name]) .undefined = [] :=
    deriver.leafTerms_undefined (path ++ [name])
  have nonempty : (path ++ [name]).isEmpty = false := by
    cases path with
    | nil => rfl
    | cons _ _ => rfl
  cases keepUndefined with
  | true =>
      rw [if_pos rfl, none]
      exact .refl _
  | false =>
      rw [if_neg Bool.false_ne_true, none]
      change ((deriver.leafTerms (path ++ [name]) .null).map Term.encode).Perm
        ((([path ++ [name]].filter (deriver.withinDeclared nameAdmits)).map _))
      unfold leafTerms
      rw [nonempty, Bool.false_or]
      cases within : deriver.withinDeclared nameAdmits (path ++ [name]) with
      | true =>
          rw [List.filter_cons_of_pos within]
          exact .refl _
      | false =>
          rw [List.filter_cons_of_neg (by rw [within]; exact Bool.false_ne_true)]
          exact .refl _

/-- What holds of the terms at a path holds of those that its parent takes
from there. -/
theorem perm_of_leads {deriver : Deriver} {path : List String} {keepUndefined : Bool}
    {before after : Value} {holes : List (List String)}
    (beneath : ∀ hole ∈ holes, ∃ rest, hole = path ++ rest)
    (perm : ((deriver.termsAt path after).map Term.encode).Perm
      ((deriver.termsAt path before).map Term.encode ++ deriver.holeKeys keepUndefined holes)) :
    ((if deriver.leadsToDeclared nameAdmits path then deriver.termsAt path after
        else []).map Term.encode).Perm
      ((if deriver.leadsToDeclared nameAdmits path then deriver.termsAt path before
        else []).map Term.encode ++ deriver.holeKeys keepUndefined holes) := by
  cases leads : deriver.leadsToDeclared nameAdmits path with
  | true => exact perm
  | false =>
      rw [holeKeys_of_not_leads keepUndefined leads beneath]
      exact .refl _

mutual

/-- The terms of a value read back are its terms and those of the nulls in its
holes. -/
theorem perm_stored (deriver : Deriver) (keepUndefined : Bool) (path : List String) :
    forall value : Value, value.Unreserved ->
      ((deriver.termsAt path (decode (value.encode keepUndefined))).map Term.encode).Perm
        ((deriver.termsAt path value).map Term.encode ++
          deriver.holeKeys keepUndefined (value.holes path))
  | .array items, unreserved => perm_storedItems deriver keepUndefined path 0 items unreserved
  | .object fields, unreserved => perm_storedFields deriver keepUndefined path fields unreserved
  | .undefined, _ => perm_of_leafKeys keepUndefined path .undefined .undefined rfl
  | .null, _ => perm_of_leafKeys keepUndefined path .null .null rfl
  | .bool value, _ => perm_of_leafKeys keepUndefined path (.bool value) (.bool value) rfl
  | .number n, _ => by
      have read : decode (encode keepUndefined (.number n)) = .number (storedNumber n) :=
        decode_encodeNumber n
      rw [read]
      exact perm_of_leafKeys keepUndefined path _ _ (deriver.leafKeys_storedNumber n)
  | .string text, unreserved => by
      have read : decode (encode keepUndefined (.string text)) = .string text := unreserved
      rw [read]
      exact perm_of_leafKeys keepUndefined path _ _ rfl
  | .date millis, _ => by
      have read : decode (encode keepUndefined (.date millis)) = .date millis :=
        decodeString_dateTag millis
      rw [read]
      exact perm_of_leafKeys keepUndefined path _ _ rfl
  | .regExp source flags, unreserved => by
      have read : decode (encode keepUndefined (.regExp source flags)) = .regExp source flags :=
        decodeString_regExpTag source unreserved
      rw [read]
      exact perm_of_leafKeys keepUndefined path _ _ rfl
  | .symbol name, _ => by
      have read : decode (encode keepUndefined (.symbol name)) = .symbol name :=
        decodeString_symbolTag name
      rw [read]
      exact perm_of_leafKeys keepUndefined path _ _ rfl

theorem perm_storedItems (deriver : Deriver) (keepUndefined : Bool) (path : List String) :
    forall (index : Nat) (items : List Value), UnreservedItems items ->
      ((deriver.termsOfItems path index
          (decodeItems (encodeItems keepUndefined items))).map Term.encode).Perm
        ((deriver.termsOfItems path index items).map Term.encode ++
          deriver.holeKeys keepUndefined (holesOfItems path index items))
  | _, [], _ => by
      rw [holesOfItems, holeKeys_nil]
      exact .refl _
  | index, item :: rest, ⟨here, later⟩ => by
      have laterPerm := perm_storedItems deriver keepUndefined path (index + 1) rest later
      rw [encodeItems, decodeItems, termsOfItems, termsOfItems, holesOfItems, List.map_append,
        List.map_append, holeKeys_append]
      refine perm_append_append (perm_of_leads ?_ ?_) laterPerm
      · intro hole member
        split at member
        · exact ⟨[], by rw [List.append_nil]; exact List.mem_singleton.mp member⟩
        · exact append_of_mem_holes item member
      · cases item with
        | undefined =>
            cases keepUndefined with
            | true => exact perm_undefined deriver true path (Nat.repr index)
            | false => exact perm_undefined deriver false path (Nat.repr index)
        | _ => exact perm_stored deriver keepUndefined (path ++ [Nat.repr index]) _ here

theorem perm_storedFields (deriver : Deriver) (keepUndefined : Bool) (path : List String) :
    forall fields : List (String × Value), UnreservedFields fields ->
      ((deriver.termsOfFields path
          (decodeFields (encodeFields keepUndefined fields))).map Term.encode).Perm
        ((deriver.termsOfFields path fields).map Term.encode ++
          deriver.holeKeys keepUndefined (holesOfFields path fields))
  | [], _ => by
      rw [holesOfFields, holeKeys_nil]
      exact .refl _
  | (name, value) :: rest, ⟨here, later⟩ => by
      have laterPerm := perm_storedFields deriver keepUndefined path rest later
      have herePerm := perm_of_leads (fun _ => append_of_mem_holes value)
        (perm_stored deriver keepUndefined (path ++ [name]) value here)
      rw [encodeFields, termsOfFields, holesOfFields, holeKeys_append, List.map_append]
      split
      · -- A field that is left out had no term.
        rename_i leftOut
        cases value with
        | undefined =>
            have none : deriver.termsAt (path ++ [name]) .undefined = [] :=
              deriver.leafTerms_undefined (path ++ [name])
            have noHoles : holes (path ++ [name]) .undefined = [] := rfl
            rw [none, noHoles, ite_self, holeKeys_nil]
            exact laterPerm
        | _ => cases leftOut
      · rw [decodeFields, termsOfFields, List.map_append]
        exact perm_append_append herePerm laterPerm

end

/-- What is stored has the terms of what was to be stored, equally often,
exactly when no undefined item of an array that stands on a declared path
becomes null. -/
theorem agree_stored_iff (deriver : Deriver) (keepUndefined : Bool) {value : Value}
    (unreserved : value.Unreserved) :
    (deriver.recordCounts (decode (value.encode keepUndefined))).Agree
        (deriver.recordCounts value) ↔
      keepUndefined = true ∨
        ∀ hole ∈ value.holes [], deriver.withinDeclared nameAdmits hole = false := by
  have perm := deriver.perm_stored keepUndefined [] value unreserved
  refine TermCounts.agree_ofTerms_iff.trans (Iff.trans ?_ (holeKeys_eq_nil_iff _ _ _))
  constructor
  · intro same
    have lengths := (same.symm.trans perm).length_eq
    rw [List.length_append, List.length_map, List.length_map] at lengths
    exact List.length_eq_zero_iff.mp (Nat.left_eq_add.mp lengths)
  · intro none
    rw [none, List.append_nil] at perm
    exact perm

/-- A list of tags with one that is not there, without declared paths. -/
theorem agree_stored_kept :
    (Value.object [("tags", .array [.string "a", .undefined])]).Unreserved ∧
      (recordCounts ⟨none, none⟩ (decode (encode true
          (.object [("tags", .array [.string "a", .undefined])])))).Agree
        (recordCounts ⟨none, none⟩ (.object [("tags", .array [.string "a", .undefined])])) := by
  have unreserved : (Value.object [("tags", .array [.string "a", .undefined])]).Unreserved :=
    ⟨⟨rfl, trivial, trivial⟩, trivial⟩
  exact ⟨unreserved, (agree_stored_iff _ true unreserved).mpr (.inl rfl)⟩

/-- An item that is not there is indexed as null once it has been stored. -/
theorem not_agree_stored_hole :
    (Value.object [("tags", .array [.undefined])]).Unreserved ∧
      ¬ (recordCounts ⟨none, none⟩ (decode (encode false
          (.object [("tags", .array [.undefined])])))).Agree
        (recordCounts ⟨none, none⟩ (.object [("tags", .array [.undefined])])) := by
  refine ⟨⟨⟨trivial, trivial⟩, trivial⟩, fun agree => ?_⟩
  have before : recordTerms ⟨none, none⟩ (.object [("tags", .array [.undefined])]) = [] := rfl
  have after : recordTerms ⟨none, none⟩ (decode (encode false
      (.object [("tags", .array [.undefined])]))) = [⟨["tags", "0"], .null⟩] := rfl
  have same := (TermCounts.agree_ofTerms_iff.mp agree).length_eq
  rw [before, after] at same
  cases same

end Deriver

end RecordIndex
