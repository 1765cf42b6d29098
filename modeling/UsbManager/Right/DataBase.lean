import UsbManager.Lib.Rdb

/-!
# The rights database

`UsbRightDataBase` over `usbRightInfoTable`. What the store answers to each call, which ids it gives
to inserted rows and how far its result sets can be read is arbitrary.
-/

namespace UsbManager.Right

open Rdb

def usbRightOk : Int := 0
def usbRightFailure : Int := -1
def usbRightRdbExecuteFailture : Int := -2
def usbRightRdbNoInit : Int := -3
def usbRightRdbEmpty : Int := -4
def usbRightNop : Int := -6

/-- A row of `usbRightInfoTable`; times are stored as `INTEGER`, and `tokenId` may be `NULL`. -/
structure Row where
  id : Int64
  uid : Int32
  installTime : Int64
  updateTime : Int64
  requestTime : Int64
  validPeriod : Int64
  deviceName : String
  bundleName : String
  tokenId : Option String
  deriving DecidableEq, Repr

/-- What can be read of a result set: its table info, and of each row its position and its columns. -/
structure Cursor where
  tableInfo : Bool
  goToRow : Nat → Bool
  columns : Nat → Bool

/-- `UsbRightDataBase`: whether `store_` is there, and what it answers. -/
structure UsbRightDataBase where
  store : Bool
  answers : Nat → Bool
  rowIds : Nat → Int64
  cursors : Nat → Cursor

/-- Every call on the store succeeds, and every result set is read to its end. -/
structure UsbRightDataBase.Succeeds (db : UsbRightDataBase) : Prop where
  store : db.store = true
  answers : ∀ n, db.answers n = true
  tableInfo : ∀ n, (db.cursors n).tableInfo = true
  goToRow : ∀ n i, (db.cursors n).goToRow i = true
  columns : ∀ n i, (db.cursors n).columns i = true

namespace UsbRightDataBase

variable (db : UsbRightDataBase)

/-- The code of a call on `store_`. -/
def execute (call : Session Row Bool) : Session Row Int := do
  if db.store = false then return usbRightRdbNoInit
  if (← call) = false then return usbRightRdbExecuteFailture
  return usbRightOk

def beginTransaction : Session Row Int := db.execute (Rdb.beginTransaction db.answers)

def commit : Session Row Int := db.execute (Rdb.commit db.answers)

def rollBack : Session Row Int := db.execute (Rdb.rollBack db.answers)

/-- The row without its id, which the store assigns and `Insert` returns. -/
def insert (row : Row) : Session Row Int := do
  let outRowId := db.rowIds (← get).calls
  let ret ← db.execute (Rdb.insert db.answers { row with id := outRowId })
  return if ret ≠ usbRightOk then ret else outRowId.toInt

def update (whereClause : Row → Bool) (values : Row → Row) : Session Row (Int × Nat) := do
  if db.store = false then return (usbRightRdbNoInit, 0)
  let (ok, changedRows) ← Rdb.update db.answers whereClause values
  return (if ok then usbRightOk else usbRightRdbExecuteFailture, changedRows)

def delete (whereClause : Row → Bool) : Session Row (Int × Nat) := do
  if db.store = false then return (usbRightRdbNoInit, 0)
  let (ok, changedRows) ← Rdb.delete db.answers whereClause
  return (if ok then usbRightOk else usbRightRdbExecuteFailture, changedRows)

/-- The selected rows with the cursor over them, or `nullptr`. -/
def query (predicates : Row → Bool) : Session Row (Option (List Row × Cursor)) := do
  if db.store = false then return none
  let cursor := db.cursors (← get).calls
  return (← Rdb.query db.answers predicates).map fun rows => (rows, cursor)

end UsbRightDataBase

end UsbManager.Right
