import TlsEndpoint.Text

/-! # Input/output failures

A failure has a kind, which is what callers dispatch on. The operating system reports a number; the
table below gives each number's kind and text. -/
namespace TlsEndpoint

inductive IoKind where
  | addrInUse
  | addrNotAvailable
  | alreadyExists
  | argumentListTooLong
  | brokenPipe
  | connectionAborted
  | connectionRefused
  | connectionReset
  | crossesDevices
  | deadlock
  | directoryNotEmpty
  | executableFileBusy
  | fileTooLarge
  | filesystemLoop
  | hostUnreachable
  | inProgress
  | inputOutputError
  | interrupted
  | invalidData
  | invalidFilename
  | invalidInput
  | isADirectory
  | networkDown
  | networkUnreachable
  | notADirectory
  | notConnected
  | notFound
  | notSeekable
  | other
  | outOfMemory
  | permissionDenied
  | quotaExceeded
  | readOnlyFilesystem
  | resourceBusy
  | staleNetworkFileHandle
  | storageFull
  | timedOut
  | tooManyLinks
  | uncategorized
  | unexpectedEof
  | unsupported
  | wouldBlock
  | writeZero
  deriving DecidableEq, Repr

namespace IoKind

def name : IoKind → String
  | .addrInUse => "AddrInUse"
  | .addrNotAvailable => "AddrNotAvailable"
  | .alreadyExists => "AlreadyExists"
  | .argumentListTooLong => "ArgumentListTooLong"
  | .brokenPipe => "BrokenPipe"
  | .connectionAborted => "ConnectionAborted"
  | .connectionRefused => "ConnectionRefused"
  | .connectionReset => "ConnectionReset"
  | .crossesDevices => "CrossesDevices"
  | .deadlock => "Deadlock"
  | .directoryNotEmpty => "DirectoryNotEmpty"
  | .executableFileBusy => "ExecutableFileBusy"
  | .fileTooLarge => "FileTooLarge"
  | .filesystemLoop => "FilesystemLoop"
  | .hostUnreachable => "HostUnreachable"
  | .inProgress => "InProgress"
  | .inputOutputError => "InputOutputError"
  | .interrupted => "Interrupted"
  | .invalidData => "InvalidData"
  | .invalidFilename => "InvalidFilename"
  | .invalidInput => "InvalidInput"
  | .isADirectory => "IsADirectory"
  | .networkDown => "NetworkDown"
  | .networkUnreachable => "NetworkUnreachable"
  | .notADirectory => "NotADirectory"
  | .notConnected => "NotConnected"
  | .notFound => "NotFound"
  | .notSeekable => "NotSeekable"
  | .other => "Other"
  | .outOfMemory => "OutOfMemory"
  | .permissionDenied => "PermissionDenied"
  | .quotaExceeded => "QuotaExceeded"
  | .readOnlyFilesystem => "ReadOnlyFilesystem"
  | .resourceBusy => "ResourceBusy"
  | .staleNetworkFileHandle => "StaleNetworkFileHandle"
  | .storageFull => "StorageFull"
  | .timedOut => "TimedOut"
  | .tooManyLinks => "TooManyLinks"
  | .uncategorized => "Uncategorized"
  | .unexpectedEof => "UnexpectedEof"
  | .unsupported => "Unsupported"
  | .wouldBlock => "WouldBlock"
  | .writeZero => "WriteZero"

def description : IoKind → String
  | .addrInUse => "address in use"
  | .addrNotAvailable => "address not available"
  | .alreadyExists => "entity already exists"
  | .argumentListTooLong => "argument list too long"
  | .brokenPipe => "broken pipe"
  | .connectionAborted => "connection aborted"
  | .connectionRefused => "connection refused"
  | .connectionReset => "connection reset"
  | .crossesDevices => "cross-device link or rename"
  | .deadlock => "deadlock"
  | .directoryNotEmpty => "directory not empty"
  | .executableFileBusy => "executable file busy"
  | .fileTooLarge => "file too large"
  | .filesystemLoop => "filesystem loop or indirection limit (e.g. symlink loop)"
  | .hostUnreachable => "host unreachable"
  | .inProgress => "in progress"
  | .inputOutputError => "input/output error"
  | .interrupted => "operation interrupted"
  | .invalidData => "invalid data"
  | .invalidFilename => "invalid filename"
  | .invalidInput => "invalid input parameter"
  | .isADirectory => "is a directory"
  | .networkDown => "network down"
  | .networkUnreachable => "network unreachable"
  | .notADirectory => "not a directory"
  | .notConnected => "not connected"
  | .notFound => "entity not found"
  | .notSeekable => "seek on unseekable file"
  | .other => "other error"
  | .outOfMemory => "out of memory"
  | .permissionDenied => "permission denied"
  | .quotaExceeded => "quota exceeded"
  | .readOnlyFilesystem => "read-only filesystem or storage medium"
  | .resourceBusy => "resource busy"
  | .staleNetworkFileHandle => "stale network file handle"
  | .storageFull => "no storage space"
  | .timedOut => "timed out"
  | .tooManyLinks => "too many links"
  | .uncategorized => "uncategorized error"
  | .unexpectedEof => "unexpected end of file"
  | .unsupported => "unsupported"
  | .wouldBlock => "operation would block"
  | .writeZero => "write zero"

def all : List IoKind := [
  .addrInUse, .addrNotAvailable, .alreadyExists, .argumentListTooLong, .brokenPipe,
  .connectionAborted, .connectionRefused, .connectionReset, .crossesDevices, .deadlock,
  .directoryNotEmpty, .executableFileBusy, .fileTooLarge, .filesystemLoop, .hostUnreachable,
  .inProgress, .inputOutputError, .interrupted, .invalidData, .invalidFilename, .invalidInput,
  .isADirectory, .networkDown, .networkUnreachable, .notADirectory, .notConnected, .notFound,
  .notSeekable, .other, .outOfMemory, .permissionDenied, .quotaExceeded, .readOnlyFilesystem,
  .resourceBusy, .staleNetworkFileHandle, .storageFull, .timedOut, .tooManyLinks, .uncategorized,
  .unexpectedEof, .unsupported, .wouldBlock, .writeZero]

def ofName? (s : String) : Option IoKind := all.find? fun k => k.name == s

theorem mem_all (k : IoKind) : k ∈ all := by cases k <;> decide

theorem ofName?_name (k : IoKind) : ofName? k.name = some k := by cases k <;> rfl

end IoKind

/-- A failure number of the operating system: its kind and its text. -/
structure SystemFailure where
  kind : IoKind
  text : String
  deriving DecidableEq, Repr

namespace SystemFailure

def table : List (Nat × SystemFailure) := [
  (0, ⟨.uncategorized, "Success"⟩),
  (1, ⟨.permissionDenied, "Operation not permitted"⟩),
  (2, ⟨.notFound, "No such file or directory"⟩),
  (3, ⟨.uncategorized, "No such process"⟩),
  (4, ⟨.interrupted, "Interrupted system call"⟩),
  (5, ⟨.inputOutputError, "Input/output error"⟩),
  (6, ⟨.uncategorized, "No such device or address"⟩),
  (7, ⟨.argumentListTooLong, "Argument list too long"⟩),
  (8, ⟨.uncategorized, "Exec format error"⟩),
  (9, ⟨.uncategorized, "Bad file descriptor"⟩),
  (10, ⟨.uncategorized, "No child processes"⟩),
  (11, ⟨.wouldBlock, "Resource temporarily unavailable"⟩),
  (12, ⟨.outOfMemory, "Cannot allocate memory"⟩),
  (13, ⟨.permissionDenied, "Permission denied"⟩),
  (14, ⟨.uncategorized, "Bad address"⟩),
  (15, ⟨.uncategorized, "Block device required"⟩),
  (16, ⟨.resourceBusy, "Device or resource busy"⟩),
  (17, ⟨.alreadyExists, "File exists"⟩),
  (18, ⟨.crossesDevices, "Invalid cross-device link"⟩),
  (19, ⟨.uncategorized, "No such device"⟩),
  (20, ⟨.notADirectory, "Not a directory"⟩),
  (21, ⟨.isADirectory, "Is a directory"⟩),
  (22, ⟨.invalidInput, "Invalid argument"⟩),
  (23, ⟨.uncategorized, "Too many open files in system"⟩),
  (24, ⟨.uncategorized, "Too many open files"⟩),
  (25, ⟨.uncategorized, "Inappropriate ioctl for device"⟩),
  (26, ⟨.executableFileBusy, "Text file busy"⟩),
  (27, ⟨.fileTooLarge, "File too large"⟩),
  (28, ⟨.storageFull, "No space left on device"⟩),
  (29, ⟨.notSeekable, "Illegal seek"⟩),
  (30, ⟨.readOnlyFilesystem, "Read-only file system"⟩),
  (31, ⟨.tooManyLinks, "Too many links"⟩),
  (32, ⟨.brokenPipe, "Broken pipe"⟩),
  (33, ⟨.uncategorized, "Numerical argument out of domain"⟩),
  (34, ⟨.uncategorized, "Numerical result out of range"⟩),
  (35, ⟨.deadlock, "Resource deadlock avoided"⟩),
  (36, ⟨.invalidFilename, "File name too long"⟩),
  (37, ⟨.uncategorized, "No locks available"⟩),
  (38, ⟨.unsupported, "Function not implemented"⟩),
  (39, ⟨.directoryNotEmpty, "Directory not empty"⟩),
  (40, ⟨.filesystemLoop, "Too many levels of symbolic links"⟩),
  (42, ⟨.uncategorized, "No message of desired type"⟩),
  (43, ⟨.uncategorized, "Identifier removed"⟩),
  (44, ⟨.uncategorized, "Channel number out of range"⟩),
  (45, ⟨.uncategorized, "Level 2 not synchronized"⟩),
  (46, ⟨.uncategorized, "Level 3 halted"⟩),
  (47, ⟨.uncategorized, "Level 3 reset"⟩),
  (48, ⟨.uncategorized, "Link number out of range"⟩),
  (49, ⟨.uncategorized, "Protocol driver not attached"⟩),
  (50, ⟨.uncategorized, "No CSI structure available"⟩),
  (51, ⟨.uncategorized, "Level 2 halted"⟩),
  (52, ⟨.uncategorized, "Invalid exchange"⟩),
  (53, ⟨.uncategorized, "Invalid request descriptor"⟩),
  (54, ⟨.uncategorized, "Exchange full"⟩),
  (55, ⟨.uncategorized, "No anode"⟩),
  (56, ⟨.uncategorized, "Invalid request code"⟩),
  (57, ⟨.uncategorized, "Invalid slot"⟩),
  (59, ⟨.uncategorized, "Bad font file format"⟩),
  (60, ⟨.uncategorized, "Device not a stream"⟩),
  (61, ⟨.uncategorized, "No data available"⟩),
  (62, ⟨.uncategorized, "Timer expired"⟩),
  (63, ⟨.uncategorized, "Out of streams resources"⟩),
  (64, ⟨.uncategorized, "Machine is not on the network"⟩),
  (65, ⟨.uncategorized, "Package not installed"⟩),
  (66, ⟨.uncategorized, "Object is remote"⟩),
  (67, ⟨.uncategorized, "Link has been severed"⟩),
  (68, ⟨.uncategorized, "Advertise error"⟩),
  (69, ⟨.uncategorized, "Srmount error"⟩),
  (70, ⟨.uncategorized, "Communication error on send"⟩),
  (71, ⟨.uncategorized, "Protocol error"⟩),
  (72, ⟨.uncategorized, "Multihop attempted"⟩),
  (73, ⟨.uncategorized, "RFS specific error"⟩),
  (74, ⟨.uncategorized, "Bad message"⟩),
  (75, ⟨.uncategorized, "Value too large for defined data type"⟩),
  (76, ⟨.uncategorized, "Name not unique on network"⟩),
  (77, ⟨.uncategorized, "File descriptor in bad state"⟩),
  (78, ⟨.uncategorized, "Remote address changed"⟩),
  (79, ⟨.uncategorized, "Can not access a needed shared library"⟩),
  (80, ⟨.uncategorized, "Accessing a corrupted shared library"⟩),
  (81, ⟨.uncategorized, ".lib section in a.out corrupted"⟩),
  (82, ⟨.uncategorized, "Attempting to link in too many shared libraries"⟩),
  (83, ⟨.uncategorized, "Cannot exec a shared library directly"⟩),
  (84, ⟨.uncategorized, "Invalid or incomplete multibyte or wide character"⟩),
  (85, ⟨.uncategorized, "Interrupted system call should be restarted"⟩),
  (86, ⟨.uncategorized, "Streams pipe error"⟩),
  (87, ⟨.uncategorized, "Too many users"⟩),
  (88, ⟨.uncategorized, "Socket operation on non-socket"⟩),
  (89, ⟨.uncategorized, "Destination address required"⟩),
  (90, ⟨.uncategorized, "Message too long"⟩),
  (91, ⟨.uncategorized, "Protocol wrong type for socket"⟩),
  (92, ⟨.uncategorized, "Protocol not available"⟩),
  (93, ⟨.uncategorized, "Protocol not supported"⟩),
  (94, ⟨.uncategorized, "Socket type not supported"⟩),
  (95, ⟨.unsupported, "Operation not supported"⟩),
  (96, ⟨.uncategorized, "Protocol family not supported"⟩),
  (97, ⟨.uncategorized, "Address family not supported by protocol"⟩),
  (98, ⟨.addrInUse, "Address already in use"⟩),
  (99, ⟨.addrNotAvailable, "Cannot assign requested address"⟩),
  (100, ⟨.networkDown, "Network is down"⟩),
  (101, ⟨.networkUnreachable, "Network is unreachable"⟩),
  (102, ⟨.uncategorized, "Network dropped connection on reset"⟩),
  (103, ⟨.connectionAborted, "Software caused connection abort"⟩),
  (104, ⟨.connectionReset, "Connection reset by peer"⟩),
  (105, ⟨.uncategorized, "No buffer space available"⟩),
  (106, ⟨.uncategorized, "Transport endpoint is already connected"⟩),
  (107, ⟨.notConnected, "Transport endpoint is not connected"⟩),
  (108, ⟨.uncategorized, "Cannot send after transport endpoint shutdown"⟩),
  (109, ⟨.uncategorized, "Too many references: cannot splice"⟩),
  (110, ⟨.timedOut, "Connection timed out"⟩),
  (111, ⟨.connectionRefused, "Connection refused"⟩),
  (112, ⟨.uncategorized, "Host is down"⟩),
  (113, ⟨.hostUnreachable, "No route to host"⟩),
  (114, ⟨.uncategorized, "Operation already in progress"⟩),
  (115, ⟨.inProgress, "Operation now in progress"⟩),
  (116, ⟨.staleNetworkFileHandle, "Stale file handle"⟩),
  (117, ⟨.uncategorized, "Structure needs cleaning"⟩),
  (118, ⟨.uncategorized, "Not a XENIX named type file"⟩),
  (119, ⟨.uncategorized, "No XENIX semaphores available"⟩),
  (120, ⟨.uncategorized, "Is a named type file"⟩),
  (121, ⟨.uncategorized, "Remote I/O error"⟩),
  (122, ⟨.quotaExceeded, "Disk quota exceeded"⟩),
  (123, ⟨.uncategorized, "No medium found"⟩),
  (124, ⟨.uncategorized, "Wrong medium type"⟩),
  (125, ⟨.uncategorized, "Operation canceled"⟩),
  (126, ⟨.uncategorized, "Required key not available"⟩),
  (127, ⟨.uncategorized, "Key has expired"⟩),
  (128, ⟨.uncategorized, "Key has been revoked"⟩),
  (129, ⟨.uncategorized, "Key was rejected by service"⟩),
  (130, ⟨.uncategorized, "Owner died"⟩),
  (131, ⟨.uncategorized, "State not recoverable"⟩),
  (132, ⟨.uncategorized, "Operation not possible due to RF-kill"⟩),
  (133, ⟨.uncategorized, "Memory page has hardware error"⟩)]

/-- Every number is a failure; one outside the table is of no particular kind. -/
def ofCode (code : Int) : SystemFailure :=
  match table.find? fun e => Int.ofNat e.1 == code with
  | some e => e.2
  | none => ⟨.uncategorized, "Unknown error " ++ toString code⟩

end SystemFailure

/-! ## Failures

Whoever supplies material may report a failure of a library of their own. Such a failure shows its
texts and what it wraps; nothing ties the one to the other. -/

inductive ForeignError where
  | alone (message structural : String)
  | around (source : ForeignError) (message structural : String)
  deriving DecidableEq, Repr

namespace ForeignError

def message : ForeignError → String
  | .alone m _ | .around _ m _ => m

def structural : ForeignError → String
  | .alone _ s | .around _ _ s => s

def source? : ForeignError → Option ForeignError
  | .alone .. => none
  | .around e _ _ => some e

theorem sizeOf_source {e below : ForeignError} (h : e.source? = some below) :
    sizeOf below < sizeOf e := by
  cases e with
  | alone => cases h
  | around source message structural =>
    cases h
    simp +arith

end ForeignError

inductive IoError where
  | system (code : Int)
  | bare (kind : IoKind)
  /-- A message that is part of the library that reports it. -/
  | fixed (kind : IoKind) (message : String)
  | custom (kind : IoKind) (message : String)
  /-- It stands for the failure inside: it shows that one's text, and has the same source. -/
  | boxed (kind : IoKind) (inside : ForeignError)
  deriving DecidableEq, Repr

namespace IoError

def kind : IoError → IoKind
  | .system code => (SystemFailure.ofCode code).kind
  | .bare k => k
  | .fixed k _ => k
  | .custom k _ => k
  | .boxed k _ => k

def message : IoError → String
  | .system code => (SystemFailure.ofCode code).text ++ " (os error " ++ toString code ++ ")"
  | .bare k => k.description
  | .fixed _ m => m
  | .custom _ m => m
  | .boxed _ e => e.message

def source? : IoError → Option ForeignError
  | .boxed _ e => e.source?
  | _ => none

theorem sizeOf_source {e : IoError} {below : ForeignError} (h : e.source? = some below) :
    sizeOf below < sizeOf e := by
  cases e with
  | boxed kind inside =>
    have := ForeignError.sizeOf_source h
    simp
    omega
  | system | bare | fixed | custom => cases h

def structural : IoError → String
  | .system code =>
    "Os \x7b code: " ++ toString code ++ ", kind: " ++ (SystemFailure.ofCode code).kind.name
      ++ ", message: " ++ Text.quoted (SystemFailure.ofCode code).text ++ " \x7d"
  | .bare k => "Kind(" ++ k.name ++ ")"
  | .fixed k m => "Error \x7b kind: " ++ k.name ++ ", message: " ++ Text.quoted m ++ " \x7d"
  | .custom k m => "Custom \x7b kind: " ++ k.name ++ ", error: " ++ Text.quoted m ++ " \x7d"
  | .boxed k e => "Custom \x7b kind: " ++ k.name ++ ", error: " ++ e.structural ++ " \x7d"

def noSuchFile : IoError := .system 2
def notADirectory : IoError := .system 20
def isADirectory : IoError := .system 21
def nameTooLong : IoError := .system 36
def nulInName : IoError := .fixed .invalidInput "file name contained an unexpected NUL byte"

end IoError

end TlsEndpoint
