import HubService.Json.Parse

/-!
# Configuration files

A configuration file is named by `--config-path` or by the variable `CRYPTIC_CONFIG_PATH`, and
once named it must be there. Its settings form a layer between the defaults and the
environment. Reading one is checked in this order (`HubService.Config.readConfigFile`):

1. the path must name a file: a path that ends at the root, at `.` or at `..` does not;
2. the path must be looked up without a fault (`HubService.Config.FileView.lookup`);
3. something must be at the path;
4. what is there must be a regular file, not a directory or a device;
5. its text must hold one JSON object, whose fields are the settings.

What is at each path is not the library's to look at: the caller lists it, as a
`HubService.Config.FileView`. The lookup is the system's: the path is followed name after name
from the root, or from the working directory, which is empty, and a name can only be looked up
in a directory.
-/

namespace HubService.Config

open HubService.Json

/-- What is found at a path. -/
inductive PathKind where
  /-- Nothing. -/
  | missing
  /-- A directory. -/
  | directory
  /-- Something that is neither a directory nor a regular file: a device. -/
  | device
  /-- A regular file, with its text. -/
  | regular (text : String)
  deriving DecidableEq, Repr

/-- Why the system could not look a path up. -/
inductive LookupFault where
  /-- A name is to be looked up in something that is not a directory. -/
  | notDirectory
  /-- A name, or the whole path, is longer than the system allows. -/
  | nameTooLong
  deriving DecidableEq, Repr

/-- The system's words for a failed lookup. -/
def LookupFault.text : LookupFault → String
  | .notDirectory => "Not a directory (os error 20)"
  | .nameTooLong => "File name too long (os error 36)"

/-- Why a configuration file could not be used. -/
inductive FileError where
  /-- The path does not end in a file name. -/
  | noFileName
  /-- The path could not be looked up. -/
  | lookup (fault : LookupFault)
  /-- Nothing is at the path. -/
  | notFound
  /-- What is at the path is not a regular file. -/
  | notRegular
  /-- The file does not hold settings. -/
  | unreadable
  deriving DecidableEq, Repr

/-- The words for a configuration file that could not be used. -/
def FileError.text : FileError → String
  | .noFileName => "cannot determine file name for configuration file path"
  | .lookup fault => fault.text
  | .notFound => "required configuration file not found"
  | .notRegular => "configuration path is not a regular file"
  | .unreadable => "configuration file does not hold a table of settings"

/-- The last name of a path, if it ends in one: the parts between slashes, less the empty ones
and `.`, end in a name other than `..`. -/
def fileName? (path : String) : Option String :=
  match ((path.splitOn "/").filter fun part => part ≠ "" ∧ part ≠ ".").getLast? with
  | some ".." => none
  | some name => some name
  | none => none

/-- A path with its empty and `.` parts left out, so that `/etc/` and `/etc/.` are `/etc`. -/
def canonicalPath (path : String) : String :=
  let parts := (path.splitOn "/").filter fun part => part ≠ "" ∧ part ≠ "."
  (if path.startsWith "/" then "/" else "") ++ "/".intercalate parts

/-- What a configuration may be read from: what is at each absolute path listed, the root being
a directory, and nothing at any other path. -/
abbrev FileView := List (String × PathKind)

/-- What a view has at the absolute path of these names. -/
def FileView.kindAt (view : FileView) : List String → PathKind
  | [] => .directory
  | names =>
    match view.find? (fun (p, _) => canonicalPath p = "/" ++ "/".intercalate names) with
    | some (_, kind) => kind
    | none => .missing

/-- The longest name the system looks up. -/
def nameMax : Nat := 255

/-- The longest path the system looks up, in bytes, less one. -/
def pathMax : Nat := 4096

/-- Follows the parts of a path from `here`, the directory of the names `place`, or, when
`place` is `none`, the working directory or one of its ancestors, whose entries are not listed.
An empty part and `.` stay where they are, and `..` goes up; every part is looked up in a
directory, so what is not one cannot be gone into, and nothing leads to nothing. -/
def FileView.walk (view : FileView) : PathKind → Option (List String) → List String →
    Except LookupFault PathKind
  | here, _, [] => .ok here
  | .missing, _, _ :: _ => .ok .missing
  | .device, _, _ :: _ | .regular _, _, _ :: _ => .error .notDirectory
  | .directory, place, part :: rest =>
    if part = "" || part = "." then view.walk .directory place rest
    else if part = ".." then
      match place with
      | some names => view.walk (view.kindAt names.dropLast) (some names.dropLast) rest
      | none => view.walk .directory none rest
    else if nameMax < part.utf8ByteSize then .error .nameTooLong
    else
      match place with
      | some names => view.walk (view.kindAt (names ++ [part])) (some (names ++ [part])) rest
      | none => view.walk .missing none rest

/-- Looks a path up: what is at it, or why the system cannot say. -/
def FileView.lookup (view : FileView) (path : String) : Except LookupFault PathKind :=
  if pathMax ≤ path.utf8ByteSize then .error .nameTooLong
  else if path.startsWith "/" then view.walk .directory (some []) (path.splitOn "/")
  else view.walk .directory none (path.splitOn "/")

/-- Reads the configuration file at a path, given what looking it up finds. -/
def readConfigFile (path : String) (found : Except LookupFault PathKind) :
    Except FileError Fields :=
  match fileName? path with
  | none => .error .noFileName
  | some _ =>
    match found with
    | .error fault => .error (.lookup fault)
    | .ok .missing => .error .notFound
    | .ok .directory | .ok .device => .error .notRegular
    | .ok (.regular text) =>
      match parseString text with
      | .ok (.object fields) => .ok fields
      | _ => .error .unreadable

/-- **A named file must be there**: a path that names a file with nothing at it is refused as
not found. -/
theorem readConfigFile_missing (path name : String) (h : fileName? path = some name) :
    readConfigFile path (.ok .missing) = .error .notFound := by
  simp [readConfigFile, h]

end HubService.Config
