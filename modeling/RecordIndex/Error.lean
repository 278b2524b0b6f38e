import RecordIndex.Value.Display

namespace RecordIndex

/-!
# Errors

What can go wrong, each cause with the data that its message names.
-/

inductive Error where
  /-- Scans must read at least one row at a time. -/
  | emptyScanBatch
  /-- The indexes were built under another value of a setting. -/
  | settingChanged (name stored wanted : String)
  | noDataHome
  /-- The data directory is not there and cannot be made. -/
  | dataDirectory (path : String)
  /-- A record names another identity than the key it is stored under. -/
  | conflict (key id : String)
  /-- A typed record is stored outside the keys of its type. -/
  | keyType (key typeName : String)
  | alreadyExists (key : String)
  /-- Only a string can be the identity a key is taken from. -/
  | identityNotString (identity : Value)
  | thresholdOutside (threshold : Number)
  | vectorQueryWithoutType
  | badMaxDistance (distance : Single)
  | vectorsOff
  | noVectors (typeName : String)
  | corruptKey
  /-- A configuration that is no JSON of the right shape. -/
  | malformedJson

namespace Error

def message : Error -> String
  | .emptyScanBatch => "configuration error: scan_batch must be at least 1"
  | .settingChanged name stored wanted =>
      "configuration error: database was indexed with " ++ name ++ " = " ++ stored ++
        ", reopened with " ++ wanted
  | .noDataHome => "configuration error: no XDG data home to put the database in"
  | .dataDirectory path => "data directory does not exist and could not be created: " ++ path
  | .conflict key id =>
      "identity conflict: key " ++ key ++ " does not match record id " ++ id
  | .keyType key typeName => "key " ++ key ++ " is not a " ++ typeName ++ " key"
  | .alreadyExists key => "key already exists: " ++ key
  | .identityNotString identity =>
      "invalid option: identity " ++ identity.display ++ " is not a string"
  | .thresholdOutside threshold =>
      "invalid option: fulltext threshold " ++ threshold.sentenceText ++ " is outside 0..=1"
  | .vectorQueryWithoutType => "invalid option: a value vector query needs a type"
  | .badMaxDistance distance =>
      "invalid option: max_distance " ++ distance.sentenceText ++ " must be a non-negative number"
  | .vectorsOff => "vector search is not enabled for this database"
  | .noVectors typeName => "vector search is not enabled for " ++ typeName
  | .corruptKey => "index key could not be decoded"
  | .malformedJson => "serialization error"

end Error

end RecordIndex
