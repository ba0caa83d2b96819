import Accession.Store.Backend

/-!
# Pools of connections

`PoolConfig` says how a pool of connections to a database is kept, and `Pool.create?` opens one
that has made no connection yet.  Times are in seconds.

A `Database` is what can be reached through a pool: it makes a connection, which is a `Backend`, or
it fails to.  Nothing else is said about a database here.
-/

namespace Accession

/-- How a pool is kept. -/
structure PoolConfig where
  maxConnections : Nat
  minIdle : Nat
  connectionTimeout : Nat
  idleTimeout : Nat
  maxLifetime : Nat
  deriving DecidableEq, Repr

namespace PoolConfig

/-- The settings where none are given: a load holds one connection at a time. -/
def default : PoolConfig := ⟨4, 1, 30, 600, 1800⟩

/-- The settings have a meaning: there may be a connection, and time for it. -/
def isUsable (c : PoolConfig) : Bool :=
  0 < c.maxConnections && 0 < c.connectionTimeout && 0 < c.idleTimeout && 0 < c.maxLifetime

end PoolConfig

/-- A pool. -/
structure Pool where
  maxSize : Nat
  minIdle : Nat
  connectionTimeout : Nat
  idleTimeout : Nat
  maxLifetime : Nat
  /-- Open connections. -/
  connections : Nat
  /-- Open connections that are not in use. -/
  idle : Nat
  deriving DecidableEq, Repr

namespace Pool

/-- A pool without connections; it keeps no more of them idle than it may have. -/
def create? (c : PoolConfig) : Option Pool :=
  if c.isUsable then
    some ⟨c.maxConnections, min c.minIdle c.maxConnections, c.connectionTimeout, c.idleTimeout,
      c.maxLifetime, 0, 0⟩
  else none

end Pool

/-- A database, with states `σ`. -/
structure Database (σ : Type) where
  /-- Makes the connections of a pool to a URL, tries one of them and hands one out, or says why
  there is none. -/
  connect : (url : String) → Pool → Step σ String (Backend σ)

namespace Database

/-- A database that answers nobody: every pool waits for a connection in vain. -/
def unreachable : Database Unit :=
  ⟨fun _ _ => throw "timed out waiting for connection"⟩

end Database

end Accession
