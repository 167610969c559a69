import Handover.Bytes
import Handover.Text.Cut

/-! The working directory of a run: files by name, and directories. A name is followed from part to
part, through `.` and `..` too, as far as the root directory; each part but the last must lead to a
directory. Of what lies outside the working directory a run needs the way to it, the directories that
stand there and the files that keep nothing. -/

set_option autoImplicit false

namespace Handover.CommandLine

abbrev Path := List String

structure Outside where
  /-- The way to the working directory. -/
  home : Path
  directories : List Path
  /-- The files that are always empty, whatever is written to them. -/
  sinks : List Path
  apart : ∀ sink ∈ sinks, home.isPrefixOf sink = false
  deriving DecidableEq, Repr

/-- The working directory is the root directory. -/
def Outside.nothing : Outside where
  home := []
  directories := []
  sinks := []
  apart := by simp

/-- The way from the working directory to something inside it. -/
def Outside.inner? (o : Outside) (path : Path) : Option Path :=
  if o.home.isPrefixOf path then some (path.drop o.home.length) else none

structure Directory where
  outside : Outside
  files : List (String × Bytes)
  directories : List String
  deriving DecidableEq, Repr

inductive FileError where
  | notFound
  | isDirectory
  | notADirectory
  | nameTooLong
  /-- A name with a null character is no name. -/
  | badName
  deriving DecidableEq, Repr

namespace Directory

/-- What stands at the end of a way. -/
inductive Node where
  | directory
  | file (content : Bytes)
  deriving DecidableEq, Repr

def joined (path : Path) : String := "/".intercalate path

def parts (name : String) : Path :=
  ((Text.split '/' name.toList).filter (!·.isEmpty)).map String.ofList

/-- A directory inside the working directory is there by itself or on the way to another. -/
def holds (d : Directory) (inner : Path) : Bool :=
  d.directories.any fun name => inner.isPrefixOf (parts name)

def isDirectory (d : Directory) (path : Path) : Bool :=
  path.isPrefixOf d.outside.home || d.outside.directories.contains path ||
    (d.outside.inner? path).any d.holds

def longestPart : Nat := 255

def longestName : Nat := 4095

def find (d : Directory) (path : Path) : Except FileError Node :=
  if path.any (longestPart < ·.utf8ByteSize) then .error .nameTooLong
  else if d.isDirectory path then .ok .directory
  else if path ∈ d.outside.sinks then .ok (.file [])
  else match (d.outside.inner? path).bind fun inner => d.files.lookup (joined inner) with
    | some content => .ok (.file content)
    | none => .error .notFound

inductive Place where
  | directory
  | entry (path : Path)
  | nowhere (error : FileError)
  deriving DecidableEq, Repr

/-- Follows the parts of a name from a directory on. The root directory is above itself. -/
def walk (d : Directory) (path : Path) : List String → Place
  | [] => .directory
  | part :: rest =>
      if part = "." then d.walk path rest
      else if part = ".." then d.walk path.dropLast rest
      else if rest.isEmpty then .entry (path ++ [part])
      else match d.find (path ++ [part]) with
        | .ok .directory => d.walk (path ++ [part]) rest
        | .ok (.file _) => .nowhere .notADirectory
        | .error error => .nowhere error

def place (d : Directory) (name : String) : Place :=
  if name.toList.contains (Char.ofNat 0) then .nowhere .badName
  else if name.isEmpty then .nowhere .notFound
  else if longestName < name.utf8ByteSize then .nowhere .nameTooLong
  else d.walk (if name.toList.head? = some '/' then [] else d.outside.home) (parts name)

/-- A name that ends in a slash can only be that of a directory. -/
def endsInSlash (name : String) : Bool := name.toList.getLast? == some '/'

def read (d : Directory) (name : String) : Except FileError Bytes :=
  match d.place name with
  | .directory => .error .isDirectory
  | .nowhere error => .error error
  | .entry path =>
      match d.find path with
      | .ok .directory => .error .isDirectory
      | .ok (.file content) => if endsInSlash name then .error .notADirectory else .ok content
      | .error error => .error error

def set (files : List (String × Bytes)) (name : String) (content : Bytes) : List (String × Bytes) :=
  if (files.lookup name).isSome then
    files.map fun (other, old) => if other = name then (other, content) else (other, old)
  else files ++ [(name, content)]

/-- Outside the working directory nothing is kept of what is written. -/
def keep (d : Directory) (path : Path) (content : Bytes) : Directory :=
  match d.outside.inner? path with
  | some inner => { d with files := set d.files (joined inner) content }
  | none => d

def write (d : Directory) (name : String) (content : Bytes) : Except FileError Directory :=
  match d.place name with
  | .directory => .error .isDirectory
  | .nowhere error => .error error
  | .entry path =>
      if endsInSlash name then .error .isDirectory
      else match d.find path with
        | .ok .directory => .error .isDirectory
        | .ok (.file _) | .error .notFound => .ok (d.keep path content)
        | .error error => .error error

end Directory

end Handover.CommandLine
