/-
# `CallAtlas.QueryError` — why a query fails

One type holds the causes; their wording is in `QueryError.message` alone.
-/
import CallAtlas.Text.Quoted

namespace CallAtlas

/-- Why a file could not be read. -/
inductive FileFault
  | absent
  | directory
  /-- a step of the path goes on from a file -/
  | notDirectory
  | nameTooLong
  | nullInName
  | notText
deriving Repr, DecidableEq

/-- The words for a file fault. -/
def FileFault.message : FileFault → String
  | .absent => "No such file or directory (os error 2)"
  | .directory => "Is a directory (os error 21)"
  | .notDirectory => "Not a directory (os error 20)"
  | .nameTooLong => "File name too long (os error 36)"
  | .nullInName => "file name contained an unexpected NUL byte"
  | .notText => "stream did not contain valid UTF-8"

/-- Why a query, or the building of a graph, fails. -/
inductive QueryError
  /-- an operation needs a member and there is none -/
  | emptyCollection (operation : String)
  /-- no symbol of a path matches a pattern -/
  | notFound (pattern path : String)
  /-- a pattern is malformed or too large -/
  | badPattern (pattern : String)
  /-- an address is malformed -/
  | invalidAddress (address reason : String)
  /-- the callers are missing -/
  | callersNotComputed
  /-- a complement of a set without a universe -/
  | invalidComplement
  /-- an operation on the universe of a set without one -/
  | missingUniverse (operation : String)
  /-- a symbol that the graph does not have -/
  | symbolNotFound (symbol : String)
  /-- a text that is no record of the kind asked for -/
  | serialization (reason : String)
  /-- a file that cannot be read -/
  | file (path : String) (fault : FileFault)
deriving Repr, DecidableEq

/-- The words for a failure. -/
def QueryError.message : QueryError → String
  | .emptyCollection operation => "Empty collection: cannot " ++ operation ++ " from an empty set"
  | .notFound pattern path =>
      "Not found: no symbol matching '" ++ pattern ++ "' in path " ++ path
  | .badPattern pattern => "Invalid pattern '" ++ pattern ++ "': "
  | .invalidAddress address reason => "Invalid address '" ++ address ++ "': " ++ reason
  | .callersNotComputed =>
      "Callers not computed: call compute_callers() before querying the program"
  | .invalidComplement => "Invalid complement: set has no universe"
  | .missingUniverse operation =>
      "Missing universe: cannot " ++ operation ++ " on a set without a universe"
  | .symbolNotFound symbol => "Symbol not found: " ++ symbol
  | .serialization reason => "Serialization error: " ++ reason
  | .file path fault => "IO error reading " ++ Text.quoted path ++ ": " ++ fault.message

end CallAtlas
