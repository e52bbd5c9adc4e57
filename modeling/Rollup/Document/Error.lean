/-!
# Reading errors

What can go wrong between a file and the document in it.
-/

namespace Rollup

/-- Why a document could not be had. -/
inductive ReadError where
  /-- A file could not be read, for a reason that the system gives. -/
  | file (path reason : String)
  /-- A text is no document of the kind wanted. -/
  | yaml (reason : String)
  deriving DecidableEq

namespace ReadError

/-- The wording of a reading error. -/
def message : ReadError → String
  | .file path reason => "Failed to read '" ++ path ++ "': " ++ reason
  | .yaml reason => "Invalid YAML: " ++ reason

/-- The reason behind a reading error. -/
def reason : ReadError → String
  | .file _ reason => reason
  | .yaml reason => reason

/-- The path of the file that a reading error is about. -/
def path? : ReadError → Option String
  | .file path _ => some path
  | .yaml _ => none

/-- A failure of the system to read, before a path is known. -/
def ofSystem (reason : String) : ReadError :=
  .file "" reason

end ReadError

end Rollup
