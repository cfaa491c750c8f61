import TlsEndpoint.Path
import TlsEndpoint.Error.Io

/-! # Files

A file system is the list of everything below its root, each thing at the names that lead to it. A
path is walked from the root or from the working directory, one name after the other. -/
namespace TlsEndpoint

abbrev Location := List Bytes

inductive Node where
  | directory
  | file (content : Bytes)
  deriving DecidableEq, Repr

structure FileSystem where
  nodes : List (Location × Node)
  working : Location
  deriving DecidableEq, Repr

namespace FileSystem

def maxName : Nat := 255
def maxPath : Nat := 4096

def deviceDirectory : Location := [Bytes.ofText "dev"]
def temporaryDirectory : Location := [Bytes.ofText "tmp"]
def workingDirectory : Location := temporaryDirectory ++ [Bytes.ofText "work"]

/-- A directory to work in, which holds nothing, and the null device, which reads as nothing. -/
def initial : FileSystem where
  nodes := [(deviceDirectory, .directory), (deviceDirectory ++ [Bytes.ofText "null"], .file []),
    (temporaryDirectory, .directory), (workingDirectory, .directory)]
  working := workingDirectory

def node? (fs : FileSystem) (place : Location) : Option Node :=
  if place = [] then some .directory else fs.nodes.lookup place

/-- The names of a path in order. A separator at the end asks for a directory, as a point does. -/
def names (p : Path) : List Bytes :=
  let parts := (Path.segments p.octets).filter (· ≠ [])
  if p.octets.getLast? = some Path.separator then parts ++ [[Path.point]] else parts

def origin (fs : FileSystem) (p : Path) : Location := if p.isAbsolute then [] else fs.working

def enter (fs : FileSystem) (start : Location) (name : Bytes) : Except IoError Location :=
  if fs.node? start ≠ some .directory then .error IoError.notADirectory
  else if name = [Path.point] then .ok start
  else if name = [Path.point, Path.point] then .ok start.dropLast
  else if maxName < name.length then .error IoError.nameTooLong
  else
    match fs.node? (start ++ [name]) with
    | none => .error IoError.noSuchFile
    | some _ => .ok (start ++ [name])

def locate (fs : FileSystem) (p : Path) : Except IoError Location :=
  if p.octets.contains 0 then .error IoError.nulInName
  else if p.octets = [] then .error IoError.noSuchFile
  else if maxPath ≤ p.octets.length then .error IoError.nameTooLong
  else (names p).foldlM fs.enter (fs.origin p)

def read (fs : FileSystem) (p : Path) : Except IoError Bytes :=
  match fs.locate p with
  | .error e => .error e
  | .ok place =>
    match fs.node? place with
    | some (.file content) => .ok content
    | some .directory => .error IoError.isADirectory
    | none => .error IoError.noSuchFile

def put (fs : FileSystem) (place : Location) (n : Node) : FileSystem :=
  { fs with nodes := (place, n) :: fs.nodes.filter fun e => e.1 ≠ place }

/-- One name further, making a directory where there is nothing. A file in the way stops it. -/
def enterOrMake (s : FileSystem × Location) (name : Bytes) : Option (FileSystem × Location) :=
  let (fs, start) := s
  if name = [Path.point] then some s
  else if name = [Path.point, Path.point] then some (fs, start.dropLast)
  else
    let place := start ++ [name]
    match fs.node? place with
    | none => some (fs.put place .directory, place)
    | some .directory => some (fs, place)
    | some (.file _) => none

def makeDirectory (fs : FileSystem) (p : Path) : FileSystem :=
  match (names p).foldlM enterOrMake (fs, fs.origin p) with
  | some (fs, _) => fs
  | none => fs

/-- Writes a file, making its parents. A directory in its place stays. -/
def write (fs : FileSystem) (p : Path) (content : Bytes) : FileSystem :=
  let parts := names p
  match parts.getLast?, parts.dropLast.foldlM enterOrMake (fs, fs.origin p) with
  | some last, some (fs, parent) =>
    let place := parent ++ [last]
    if fs.node? place = some .directory then fs else fs.put place (.file content)
  | _, _ => fs

/-- Removes what a path leads to and all below it, and tells whether there was anything. -/
def remove (fs : FileSystem) (p : Path) : FileSystem × Bool :=
  match fs.locate p with
  | .error _ => (fs, false)
  | .ok place => ({ fs with nodes := fs.nodes.filter fun e => !place.isPrefixOf e.1 }, true)

end FileSystem

end TlsEndpoint
