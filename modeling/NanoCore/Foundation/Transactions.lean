import NanoCore.Foundation.Effects

/-!
Statements on a database file through one connection.  A statement that modifies
rows opens a transaction; a definition outside of a transaction is committed at
once, and everything inside of one with the transaction.  After each statement
the process may be interrupted, and then the file keeps what is committed.
-/

namespace NanoCore.Foundation.Transactions

open NanoCore.Foundation.Effects

structure Connection (δ : Type) where
  committed : δ
  /-- What the statements of the connection see. -/
  current : δ
  inTransaction : Bool
  /-- What the file held before the first statement and after each one, latest
  first; no statement reads it. -/
  held : List δ

variable {δ ε α β : Type}

namespace Connection

def opened (db : δ) : Connection δ := ⟨db, db, false, [db]⟩

/-- The connection after a statement has ended. -/
def endStatement (connection : Connection δ) : Connection δ :=
  { connection with held := connection.committed :: connection.held }

end Connection

abbrev Session (δ ε α : Type) := Effect (Connection δ) ε α

namespace Session

def query (f : δ → Except ε α) : Session δ ε α := fun connection =>
  (connection.endStatement, f connection.current)

/-- A `CREATE`, `ALTER` or `DROP`. -/
def define (f : δ → Except ε δ) : Session δ ε Unit := fun connection =>
  match f connection.current with
  | .error e => (connection.endStatement, .error e)
  | .ok db =>
      (Connection.endStatement
        { connection with
          committed := if connection.inTransaction then connection.committed else db
          current := db }, .ok ())

/-- An `INSERT`, `UPDATE` or `DELETE`. -/
def modify (f : δ → Except ε δ) : Session δ ε Unit := fun connection =>
  match f connection.current with
  | .error e => ({ connection with inTransaction := true }.endStatement, .error e)
  | .ok db => ({ connection with inTransaction := true, current := db }.endStatement, .ok ())

end Session

/-- What a session leaves behind. -/
structure Outcome (δ ε : Type) where
  file : δ
  result : Except ε Unit
  /-- What the file holds if the process is interrupted after so many statements,
  the final commit being one. -/
  interruptions : List δ

/-- `with engine.begin() as conn`: what is not committed goes with an exception
and is committed at the end otherwise. -/
def runSession (session : Session δ ε Unit) (db : δ) : Outcome δ ε :=
  match session (.opened db) with
  | (connection, .error e) => ⟨connection.committed, .error e, connection.held.reverse⟩
  | (connection, .ok ()) =>
      ⟨connection.current, .ok (), (connection.current :: connection.held).reverse⟩

namespace Session

variable {connection : Connection δ} {f : δ → Except ε δ} {db : δ} {next : Unit → Session δ ε β}

theorem query_bind {g : δ → Except ε α} {a : α} {next : α → Session δ ε β}
    (h : g connection.current = .ok a) :
    (query g >>= next) connection = next a connection.endStatement := by
  apply Effect.bind_of_ok
  rw [query, h]

theorem define_bind (h : f connection.current = .ok db) :
    (define f >>= next) connection =
      next () (Connection.endStatement
        { connection with
          committed := if connection.inTransaction then connection.committed else db
          current := db }) := by
  apply Effect.bind_of_ok
  rw [define, h]

theorem define_bind_of_error {e : ε} (h : f connection.current = .error e) :
    (define f >>= next) connection = (connection.endStatement, .error e) := by
  apply Effect.bind_of_error
  rw [define, h]

theorem modify_bind (h : f connection.current = .ok db) :
    (modify f >>= next) connection =
      next () { connection with inTransaction := true, current := db }.endStatement := by
  apply Effect.bind_of_ok
  rw [modify, h]

end Session

end NanoCore.Foundation.Transactions
