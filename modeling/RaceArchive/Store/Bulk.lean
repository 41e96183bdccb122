import RaceArchive.Store.Tables

/-!
# Ingesting subsessions

Ingesting reads a subsession payload into rows and stores them; a failure to store is reported in
the context of the subsession.

A bulk ingester stores many subsessions in large transactions. Each subsession is stored whole or
not at all, as one by one; after every `checkpoint` stored subsessions the work so far is
committed (a checkpoint of zero or less commits only at the end). Closing the ingester commits
the rest; aborting it drops the work since the last checkpoint.
-/

namespace RaceArchive.Store

/-- Reads a payload and stores its rows with `store`: the rows stored and what `store` gave. -/
def ingestWith {σ : Type} (store : Results.Rows → Except Failure σ) (raw : ByteArray) :
    Except Failure (Results.Rows × σ) := do
  let rows ← Results.flatten raw
  match store rows with
  | .ok s => pure (rows, s)
  | .error f =>
    throw (.within ("storing subsession " ++ toString rows.subsession.subsessionId.toInt) f)

def Store.ingest (db : Store) (raw : ByteArray) : Except Failure (Results.Rows × Store) :=
  ingestWith db.insert raw

/-- A bulk ingester: the store as last committed, the store with the work since, the checkpoint,
and the subsessions stored since the last commit and in all. -/
structure Ingester where
  committed : Store
  working : Store
  checkpoint : Int
  pending : Nat := 0
  total : Nat := 0
  deriving Inhabited

namespace Ingester

def start (db : Store) (checkpoint : Int) : Ingester := ⟨db, db, checkpoint, 0, 0⟩

def committedCount (b : Ingester) : Nat := b.total - b.pending

/-- Stores the rows of one subsession; when a checkpoint is reached, the work is committed. A
refused subsession leaves the ingester as it was. -/
def insert (b : Ingester) (rows : Results.Rows) : Except Failure Ingester := do
  let working ← b.working.insert rows
  let b := { b with working, pending := b.pending + 1, total := b.total + 1 }
  if b.checkpoint > 0 && (b.pending : Int) ≥ b.checkpoint then
    pure { b with committed := b.working, pending := 0 }
  else pure b

def ingest (b : Ingester) (raw : ByteArray) : Except Failure (Results.Rows × Ingester) :=
  ingestWith b.insert raw

def close (b : Ingester) : Store := b.working

def abort (b : Ingester) : Store := b.committed

end Ingester

end RaceArchive.Store
