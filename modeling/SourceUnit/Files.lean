import SourceUnit.Error

/-! A small tree of files, addressed by paths relative to its root. -/
namespace SourceUnit

/-- Files by the parts of their paths; a directory has no content. -/
structure Files where
  entries : List (List String × Option (List UInt8)) := []

namespace Files

/-- The parts of a path; empty parts and single dots mean nothing. -/
def parts (path : String) : List String :=
  (path.splitOn "/").filter fun p => p ≠ "" && p ≠ "."

/-- What stands at a place: a directory is there if it is listed or something lies below it. -/
inductive Kind where
  | nothing
  | directory
  | file (content : List UInt8)

def kindAt (f : Files) (place : List String) : Kind :=
  if place.isEmpty then .directory
  else
    match f.entries.find? (·.1 == place) with
    | some (_, some content) => .file content
    | some (_, none) => .directory
    | none => if f.entries.any (fun e => place.isPrefixOf e.1) then .directory else .nothing

/-- Follows the parts of a path from a directory. -/
def follow (f : Files) (path : String) (place : List String) :
    List String → Except Error (List UInt8)
  | [] =>
    match f.kindAt place with
    | .file content => .ok content
    | .directory => .error (.isDirectory path)
    | .nothing => .error (.fileNotFound path)
  | part :: rest =>
    match f.kindAt place with
    | .nothing => .error (.fileNotFound path)
    | .file _ => .error (.notDirectory path)
    | .directory =>
      if part = ".." then
        if place.isEmpty then .error (.fileNotFound path) else f.follow path place.dropLast rest
      else f.follow path (place ++ [part]) rest

/-- The content of a file. Nothing but the root lies outside. -/
def read (f : Files) (path : String) : Except Error (List UInt8) :=
  if path.toList.contains '\x00' then .error .nullInPath
  else if path.startsWith "/" then
    if (parts path).isEmpty then .error (.isDirectory path) else .error (.fileNotFound path)
  else f.follow path [] (parts path)

end Files

end SourceUnit
