import SourceUnit.Release.Parse

/-! A registry maps releases to makers of backends. Registering a release again replaces its
maker. -/
namespace SourceUnit

structure Registry (α : Type) where
  entries : List (Release × α) := []

namespace Registry

variable {α : Type}

/-- The maker of a release. -/
def find? (r : Registry α) (release : Release) : Option α := r.entries.lookup release

def put (r : Registry α) (release : Release) (maker : α) : Registry α :=
  if (r.find? release).isSome then
    ⟨r.entries.map fun e => if e.1 = release then (release, maker) else e⟩
  else ⟨r.entries ++ [(release, maker)]⟩

def erase (r : Registry α) (release : Release) : Registry α :=
  ⟨r.entries.filter (·.1 ≠ release)⟩

/-- The releases with a maker, in increasing order. -/
def supported (r : Registry α) : List Release := Release.sort (r.entries.map (·.1))

/-- The releases that are registered from the start. -/
def standardReleases : List Release := [8, 9, 10, 11, 12, 13].map fun minor => ⟨3, minor⟩

/-- A registry of the standard releases. -/
def standard (make : Release → α) : Registry α := ⟨standardReleases.map fun r => (r, make r)⟩

/-- Registers a maker. The log is written once the maker is in its place, so a release that is too
long for it is an error, and registered all the same. -/
def register (r : Registry α) (v : Value) (maker : α) : Except Error Unit × Registry α :=
  match Release.parse v with
  | .ok release => (release.write.map fun _ => (), r.put release maker)
  | .error e => (.error e, r)

def unregister (r : Registry α) (v : Value) : Except Error Unit × Registry α :=
  match Release.parse v with
  | .ok release => (.ok (), r.erase release)
  | .error e => (.error e, r)

/-- Why there is no maker for the release that a value names. The message shows the value and lists
the supported releases, if all of them can be written out. -/
def refusal (r : Registry α) (v : Value) : Error :=
  if Release.isShowable v && r.supported.all (·.isWritable) then .unregistered v r.supported
  else .numberTooLong

/-- The maker for the release that a value names. -/
def select (r : Registry α) (v : Value) : Except Error α :=
  match Release.parse v with
  | .error e => .error e
  | .ok release =>
    match r.find? release with
    | some maker => .ok maker
    | none => .error (r.refusal v)

/-- Whether a value names a registered release. A value that names none is not supported; a number
too long to read or to write is an error. -/
def supports (r : Registry α) (v : Value) : Except Error Bool :=
  match Release.parse v with
  | .ok release => .ok (r.find? release).isSome
  | .error (.unknownRelease _) => .ok false
  | .error e => .error e

end Registry

end SourceUnit
