import CodexAcp.Lib.Path
import CodexAcp.Lib.Utf8

/-!
# The file system

What the adapter asks the file system: the canonical form of a path, the bytes
of a file, and whether a path is a file. Every question can fail; the answers are
a parameter, and nothing is assumed about them.
-/

namespace CodexAcp.Protocol

open CodexAcp.Lib

structure FileSystem where
  /-- `Path::canonicalize`: the path without links, `.` and `..`, if there is such a file. -/
  canonicalize : String → Option String
  /-- `std::fs::read`. -/
  read : String → Option (List UInt8)
  /-- `Path::is_file`. -/
  isFile : String → Bool

namespace FileSystem

/-- `std::fs::read_to_string`: the file is there, and it is UTF-8. -/
def readToString (fs : FileSystem) (path : String) : Option String :=
  (fs.read path).bind Utf8.fromUtf8

/-- A file system of a few texts, each under its canonical path. -/
def ofFiles (files : List (String × String)) : FileSystem where
  canonicalize path := if files.any fun f => Path.startsWith path f.1 then some path else none
  read path := (files.lookup path).map Utf8.utf8
  isFile path := (files.lookup path).isSome

theorem readToString_ofFiles (files : List (String × String)) (path : String) :
    (ofFiles files).readToString path = files.lookup path := by
  unfold readToString ofFiles
  dsimp only
  cases files.lookup path with
  | none => rfl
  | some text =>
    rw [Option.map_some, Option.bind_some]
    exact Utf8.fromUtf8_eq_some_iff.mpr rfl

end FileSystem

end CodexAcp.Protocol
