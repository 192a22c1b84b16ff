import DbxSpec.Base.Text

/-!
# What is known of a column

The metadata of `crates/dbx-sql-data/src/data_grid_sql.rs:100` with the tests that
`crates/dbx-core/src/data/data_compare.rs` and `crates/dbx-core/src/data/transfer.rs` make of it.
-/

namespace DbxSpec.Grid

open DbxSpec.Base

/-- `data_grid_sql.rs:100`. -/
structure DataGridColumnInfo where
  name : Text
  dataType : Text := []
  isNullable : Bool := false
  isPrimaryKey : Bool := false
  columnDefault : Option Text := none
  extra : Option Text := none
  deriving DecidableEq, Repr

/-- `data_compare.rs:1630`. -/
def columnInfoFor (columns : List DataGridColumnInfo) (name : Text) : Option DataGridColumnInfo :=
  columns.find? fun column => toAsciiLowercase column.name == toAsciiLowercase name

/-- `data_compare.rs:1635`. -/
def isNonIdentityGeneratedColumn (columnInfo : Option DataGridColumnInfo) : Bool :=
  let extra := toAsciiLowercase ((columnInfo.bind (·.extra)).getD [])
  containsText extra "generated always as" && !containsText extra "identity"

/-- `transfer.rs:2242`. -/
def isIdentityColumnExtra (extra : Option Text) : Bool :=
  extra.any fun value =>
    let normalized := toAsciiLowercase (trim value)
    containsText normalized "identity" &&
      !containsText normalized "auto_increment" &&
      !containsText normalized "autoincrement"

/-- `transfer.rs:2232`. -/
def isPostgresGeneratedAlwaysIdentityExtra (extra : Option Text) : Bool :=
  extra.any fun value =>
    ((splitWhitespace value).take 4).map toAsciiLowercase ==
      ["generated", "always", "as", "identity"].map String.toList

/-- `data_compare.rs:1042`. -/
def isPostgresSequenceBackedColumn (columnInfo : Option DataGridColumnInfo) : Bool :=
  columnInfo.any fun columnInfo =>
    let extra := toAsciiLowercase (trim (columnInfo.extra.getD []))
    let default := toAsciiLowercase (trimStart (columnInfo.columnDefault.getD []))
    containsText extra "identity" || endsWith extra "serial" ||
      "nextval(".toList.isPrefixOf default

end DbxSpec.Grid
