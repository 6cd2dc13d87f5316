/-! Faults of the operating system: an error number, or a refusal before the kernel was
asked. -/

namespace FuseVolumes

inductive Fault
  | errno (number : Int)
  | nulInPath
  | nulInSocketPath
  | socketPathTooLong
  | nulInArgument
  | invalidText
  deriving DecidableEq, Repr

namespace Fault

/-- The standard text of an error number. -/
def errnoText : Int → String
  | 1 => "Operation not permitted"
  | 2 => "No such file or directory"
  | 3 => "No such process"
  | 4 => "Interrupted system call"
  | 5 => "Input/output error"
  | 6 => "No such device or address"
  | 7 => "Argument list too long"
  | 8 => "Exec format error"
  | 9 => "Bad file descriptor"
  | 10 => "No child processes"
  | 11 => "Resource temporarily unavailable"
  | 12 => "Cannot allocate memory"
  | 13 => "Permission denied"
  | 14 => "Bad address"
  | 15 => "Block device required"
  | 16 => "Device or resource busy"
  | 17 => "File exists"
  | 18 => "Invalid cross-device link"
  | 19 => "No such device"
  | 20 => "Not a directory"
  | 21 => "Is a directory"
  | 22 => "Invalid argument"
  | 23 => "Too many open files in system"
  | 24 => "Too many open files"
  | 25 => "Inappropriate ioctl for device"
  | 26 => "Text file busy"
  | 27 => "File too large"
  | 28 => "No space left on device"
  | 29 => "Illegal seek"
  | 30 => "Read-only file system"
  | 31 => "Too many links"
  | 32 => "Broken pipe"
  | 36 => "File name too long"
  | 38 => "Function not implemented"
  | 39 => "Directory not empty"
  | 40 => "Too many levels of symbolic links"
  | 71 => "Protocol error"
  | 95 => "Operation not supported"
  | 98 => "Address already in use"
  | 101 => "Network is unreachable"
  | 103 => "Software caused connection abort"
  | 104 => "Connection reset by peer"
  | 107 => "Transport endpoint is not connected"
  | 110 => "Connection timed out"
  | 111 => "Connection refused"
  | 112 => "Host is down"
  | 113 => "No route to host"
  | 116 => "Stale file handle"
  | 121 => "Remote I/O error"
  | 122 => "Disk quota exceeded"
  | n => s!"Unknown error {n}"

/-- The standard name of an error number. -/
def errnoName : Int → String
  | 1 => "EPERM"
  | 2 => "ENOENT"
  | 5 => "EIO"
  | 13 => "EACCES"
  | 20 => "ENOTDIR"
  | 22 => "EINVAL"
  | 36 => "ENAMETOOLONG"
  | 38 => "ENOSYS"
  | 40 => "ELOOP"
  | 107 => "ENOTCONN"
  | 116 => "ESTALE"
  | _ => "UnknownErrno"

def message : Fault → String
  | .errno n => s!"{errnoText n} (os error {n})"
  | .nulInPath => "file name contained an unexpected NUL byte"
  | .nulInSocketPath => "paths must not contain interior null bytes"
  | .socketPathTooLong => "path must be shorter than SUN_LEN"
  | .nulInArgument => "nul byte found in provided data"
  | .invalidText => "stream did not contain valid UTF-8"

def notPermitted : Fault := .errno 1
def notFound : Fault := .errno 2
def permissionDenied : Fault := .errno 13
def busy : Fault := .errno 16
def alreadyExists : Fault := .errno 17
def notDirectory : Fault := .errno 20
def isDirectory : Fault := .errno 21
def invalidArgument : Fault := .errno 22
def noDevice : Fault := .errno 6
def addressInUse : Fault := .errno 98
def nameTooLong : Fault := .errno 36
def notEmpty : Fault := .errno 39

/-- Faults of a mount whose file system no longer answers, typically because its daemon
exited. -/
def isCorruption : Fault → Bool
  | .errno n => n == 107 || n == 116 || n == 5 || n == 13 || n == 112
  | _ => false

end Fault

end FuseVolumes
