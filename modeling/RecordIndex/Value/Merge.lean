import RecordIndex.Value

namespace RecordIndex

/-!
# Merging a patch

A patch changes a record property by property.  Objects are merged at every
depth, an undefined property of the patch deletes the property it names, and
anything else takes the place of what was there.
-/

namespace Value

mutual

/-- The value that a patch makes of another value. -/
def mergeOnto : Value -> Value -> Value
  | .object changes, .object fields => .object (mergeFields changes fields)
  | replacement, _ => replacement
termination_by structural changes => changes

/-- The fields that the fields of a patch make of the fields of an object. -/
def mergeFields : List (String × Value) -> List (String × Value) -> List (String × Value)
  | [], fields => fields
  | (name, change) :: rest, fields =>
      mergeFields rest
        (if change.isUndefined then Rows.erase name fields
        else
          match Rows.get? name fields with
          | some old => Rows.insert name (change.mergeOnto old) fields
          | none => Rows.insert name change fields)
termination_by structural changes => changes

end

end Value

end RecordIndex
