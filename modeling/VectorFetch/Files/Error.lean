import VectorFetch.Text.Quoted

/-!
# Input and output errors

* `IoError`: why a file or a sink refused.
* `IoError.message`, `IoError.chain`: its wording, alone and with what caused it.
* `IoError.description`: the form in structured logs, with the class of the error.
* `LastingError`: an error for which a call is not made again.
-/

namespace VectorFetch

/-- Why a file or a sink refused. -/
inductive IoError where
  /-- The system refused with this error number. -/
  | os (code : Int)
  /-- The name of a file holds the character that ends names. -/
  | nulInName
  /-- A file that should hold text is not UTF-8. -/
  | notText
  /-- A writer took no bytes, so it would never take all. -/
  | nothingTaken
  /-- A writer gave a reason of its own, perhaps with what caused it. -/
  | custom (text : String) (causes : List String := [])
  deriving DecidableEq, Repr

namespace IoError

/-! ## System errors -/

/-- The texts of the system errors, from number zero on. -/
def systemTexts : List String := [
    "Success", "Operation not permitted", "No such file or directory", "No such process",
    "Interrupted system call", "Input/output error", "No such device or address",
    "Argument list too long", "Exec format error", "Bad file descriptor", "No child processes",
    "Resource temporarily unavailable", "Cannot allocate memory", "Permission denied",
    "Bad address", "Block device required", "Device or resource busy", "File exists",
    "Invalid cross-device link", "No such device", "Not a directory", "Is a directory",
    "Invalid argument", "Too many open files in system", "Too many open files",
    "Inappropriate ioctl for device", "Text file busy", "File too large",
    "No space left on device", "Illegal seek", "Read-only file system", "Too many links",
    "Broken pipe", "Numerical argument out of domain", "Numerical result out of range",
    "Resource deadlock avoided", "File name too long", "No locks available",
    "Function not implemented", "Directory not empty", "Too many levels of symbolic links", "",
    "No message of desired type", "Identifier removed", "Channel number out of range",
    "Level 2 not synchronized", "Level 3 halted", "Level 3 reset", "Link number out of range",
    "Protocol driver not attached", "No CSI structure available", "Level 2 halted",
    "Invalid exchange", "Invalid request descriptor", "Exchange full", "No anode",
    "Invalid request code", "Invalid slot", "", "Bad font file format", "Device not a stream",
    "No data available", "Timer expired", "Out of streams resources",
    "Machine is not on the network", "Package not installed", "Object is remote",
    "Link has been severed", "Advertise error", "Srmount error", "Communication error on send",
    "Protocol error", "Multihop attempted", "RFS specific error", "Bad message",
    "Value too large for defined data type", "Name not unique on network",
    "File descriptor in bad state", "Remote address changed",
    "Can not access a needed shared library", "Accessing a corrupted shared library",
    ".lib section in a.out corrupted", "Attempting to link in too many shared libraries",
    "Cannot exec a shared library directly", "Invalid or incomplete multibyte or wide character",
    "Interrupted system call should be restarted", "Streams pipe error", "Too many users",
    "Socket operation on non-socket", "Destination address required", "Message too long",
    "Protocol wrong type for socket", "Protocol not available", "Protocol not supported",
    "Socket type not supported", "Operation not supported", "Protocol family not supported",
    "Address family not supported by protocol", "Address already in use",
    "Cannot assign requested address", "Network is down", "Network is unreachable",
    "Network dropped connection on reset", "Software caused connection abort",
    "Connection reset by peer", "No buffer space available",
    "Transport endpoint is already connected", "Transport endpoint is not connected",
    "Cannot send after transport endpoint shutdown", "Too many references: cannot splice",
    "Connection timed out", "Connection refused", "Host is down", "No route to host",
    "Operation already in progress", "Operation now in progress", "Stale file handle",
    "Structure needs cleaning", "Not a XENIX named type file", "No XENIX semaphores available",
    "Is a named type file", "Remote I/O error", "Disk quota exceeded", "No medium found",
    "Wrong medium type", "Operation canceled", "Required key not available", "Key has expired",
    "Key has been revoked", "Key was rejected by service", "Owner died", "State not recoverable",
    "Operation not possible due to RF-kill", "Memory page has hardware error"]

/-- The text of a system error. -/
def systemText (code : Int) : String :=
  match code with
  | .ofNat n =>
    match systemTexts[n]? with
    | some "" => s!"Unknown error {n}"
    | some text => text
    | none => s!"Unknown error {n}"
  | .negSucc n => s!"Unknown error -{n + 1}"

/-- The class of a system error. -/
def systemClass (code : Int) : String :=
  match code with
  | 1 | 13 => "PermissionDenied"
  | 2 => "NotFound"
  | 4 => "Interrupted"
  | 7 => "ArgumentListTooLong"
  | 11 => "WouldBlock"
  | 12 => "OutOfMemory"
  | 16 => "ResourceBusy"
  | 17 => "AlreadyExists"
  | 18 => "CrossesDevices"
  | 20 => "NotADirectory"
  | 21 => "IsADirectory"
  | 22 => "InvalidInput"
  | 26 => "ExecutableFileBusy"
  | 27 => "FileTooLarge"
  | 28 => "StorageFull"
  | 29 => "NotSeekable"
  | 30 => "ReadOnlyFilesystem"
  | 31 => "TooManyLinks"
  | 32 => "BrokenPipe"
  | 35 => "Deadlock"
  | 36 => "InvalidFilename"
  | 38 | 95 => "Unsupported"
  | 39 => "DirectoryNotEmpty"
  | 40 => "FilesystemLoop"
  | 98 => "AddrInUse"
  | 99 => "AddrNotAvailable"
  | 100 => "NetworkDown"
  | 101 => "NetworkUnreachable"
  | 103 => "ConnectionAborted"
  | 104 => "ConnectionReset"
  | 107 => "NotConnected"
  | 110 => "TimedOut"
  | 111 => "ConnectionRefused"
  | 113 => "HostUnreachable"
  | 115 => "InProgress"
  | 116 => "StaleNetworkFileHandle"
  | 122 => "QuotaExceeded"
  | _ => "Uncategorized"

/-! ## Wording -/

def message : IoError → String
  | .os code => s!"{systemText code} (os error {code})"
  | .nulInName => "file name contained an unexpected NUL byte"
  | .notText => "stream did not contain valid UTF-8"
  | .nothingTaken => "failed to write whole buffer"
  | .custom text _ => text

/-- What caused the error, as far as it says. -/
def causes : IoError → List String
  | .custom _ causes => causes
  | _ => []

/-- The message and those of the causes. -/
def chain (e : IoError) : List String := e.message :: e.causes

/-- The form of an error in structured logs. -/
def description : IoError → String
  | .os code =>
    "Os \x7b code: " ++ toString code ++ ", kind: " ++ systemClass code ++ ", message: "
      ++ Text.quoted (systemText code) ++ " \x7d"
  | .custom text _ => "Custom \x7b kind: Other, error: " ++ Text.quoted text ++ " \x7d"
  | .nulInName => withClass "InvalidInput" .nulInName
  | .notText => withClass "InvalidData" .notText
  | .nothingTaken => withClass "WriteZero" .nothingTaken
where
  /-- An error of the library itself, by its class. -/
  withClass (name : String) (e : IoError) : String :=
    "Error \x7b kind: " ++ name ++ ", message: " ++ Text.quoted e.message ++ " \x7d"

/-- Whether the error says no more than that a call was interrupted. -/
def isInterrupted : IoError → Bool
  | .os code => code = 4
  | _ => false

end IoError

/-- An error for which a call is not made again. A call that was interrupted is, as often as it
takes. -/
structure LastingError where
  error : IoError
  lasting : error.isInterrupted = false
  deriving DecidableEq, Repr

end VectorFetch
