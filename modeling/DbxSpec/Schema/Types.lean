import DbxSpec.Base.Text

/-!
# Schema comparison records

The metadata that a comparison reads (`crates/dbx-types/src/types.rs`) and the differences that
it reports (`crates/dbx-sql-schema/src/schema_diff.rs:42-265`), with the fields that comparison,
ordering, generation and inversion use.
-/

namespace DbxSpec.Schema

open DbxSpec.Base

/-! ### Metadata -/

/-- `types.rs:369`. -/
structure ColumnInfo where
  name : Text
  dataType : Text
  isNullable : Bool
  columnDefault : Option Text
  isPrimaryKey : Bool
  extra : Option Text
  comment : Option Text
  numericPrecision : Option Int
  numericScale : Option Int
  characterMaximumLength : Option Int
  characterSet : Option Text
  collation : Option Text
  deriving DecidableEq, Repr

/-- `types.rs:996`. -/
structure IndexInfo where
  name : Text
  columns : List Text
  isUnique : Bool
  isPrimary : Bool
  filter : Option Text
  indexType : Option Text
  includedColumns : Option (List Text)
  keyIsExpression : List Bool
  columnOpclasses : List (Option Text)
  keyOptions : List Int
  deriving DecidableEq, Repr

/-- `types.rs:1044`. -/
structure ForeignKeyInfo where
  name : Text
  column : Text
  refSchema : Option Text
  refTable : Text
  refColumn : Text
  onUpdate : Option Text
  onDelete : Option Text
  deriving DecidableEq, Repr

/-- `schema_diff.rs:82`: a whole constraint, with its column pairs. -/
structure SchemaForeignKeyInfo extends ForeignKeyInfo where
  columnPairs : List (Text × Text)
  deriving DecidableEq, Repr

/-- `types.rs:1058`. -/
structure TriggerInfo where
  name : Text
  event : Text
  timing : Text
  deriving DecidableEq, Repr

/-! ### Differences -/

/-- The values of `diff_type`. -/
inductive DiffType
  | added
  | removed
  | modified
  | renamed
  | none
  deriving DecidableEq, Repr

/-- The values of `object_type`. -/
inductive ObjectType
  | table
  | view
  deriving DecidableEq, Repr

/-- `schema_diff.rs:44`. -/
inductive ColumnAddPosition
  | first
  | after (predecessor : Text)
  deriving DecidableEq, Repr

/-- `schema_diff.rs:51`. -/
structure ColumnDiff where
  diffType : DiffType
  name : Text
  source : Option ColumnInfo
  target : Option ColumnInfo
  changes : List Text
  addPosition : Option ColumnAddPosition
  deriving DecidableEq, Repr

/-- `schema_diff.rs:67`. -/
structure IndexDiff where
  diffType : DiffType
  name : Text
  source : Option IndexInfo
  target : Option IndexInfo
  changes : List Text
  deriving DecidableEq, Repr

/-- `schema_diff.rs:149`. -/
structure ForeignKeyDiff where
  diffType : DiffType
  name : Text
  source : Option SchemaForeignKeyInfo
  target : Option SchemaForeignKeyInfo
  changes : List Text
  deriving DecidableEq, Repr

/-- `schema_diff.rs:163`. -/
structure TriggerDiff where
  diffType : DiffType
  name : Text
  source : Option TriggerInfo
  target : Option TriggerInfo
  changes : List Text
  deriving DecidableEq, Repr

/-- `mysql_charset.rs:9`. -/
structure MysqlTableCharset where
  characterSet : Option Text
  collation : Option Text
  deriving DecidableEq, Repr

/-- `mysql_charset.rs:16`. -/
structure TableCharsetDiff where
  source : MysqlTableCharset
  target : MysqlTableCharset
  deriving DecidableEq, Repr

/-- `schema_diff.rs:235`. -/
structure TableDiff where
  diffType : DiffType
  objectType : Option ObjectType := none
  name : Text
  targetName : Option Text := none
  columns : Option (List ColumnDiff) := none
  indexes : Option (List IndexDiff) := none
  foreignKeys : Option (List ForeignKeyDiff) := none
  triggers : Option (List TriggerDiff) := none
  ddl : Option Text := none
  targetDdl : Option Text := none
  sourceTableComment : Option (Option Text) := none
  targetTableComment : Option (Option Text) := none
  tableCharset : Option TableCharsetDiff := none
  deriving DecidableEq, Repr

/-- `schema_diff.rs:4986`. -/
def targetTableName (diff : TableDiff) : Text := diff.targetName.getD diff.name

end DbxSpec.Schema
