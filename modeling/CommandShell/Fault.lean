set_option autoImplicit false

/-!
# Faults of the system

What the operating system answers when it refuses a call, and the reasons for which reading, writing
or opening a file can fail, each with its wording.
-/

namespace CommandShell

/-- Why the system refused a call. -/
inductive Errno where
  | notPermitted
  | noEntry
  | noProcess
  | interrupted
  | inputOutput
  | noDevice
  | argumentsTooLong
  | execFormat
  | badDescriptor
  | noChild
  | tryAgain
  | accessDenied
  | busy
  | exists
  | crossDevice
  | notDirectory
  | isDirectory
  | invalidArgument
  | tooManyOpenFiles
  | notTerminal
  | textFileBusy
  | fileTooLarge
  | noSpace
  | illegalSeek
  | brokenPipe
  | nameTooLong
  | directoryNotEmpty
  | tooManyLinks
  deriving DecidableEq

namespace Errno

/-- The system's number for the refusal. -/
def number : Errno → Nat
  | notPermitted => 1
  | noEntry => 2
  | noProcess => 3
  | interrupted => 4
  | inputOutput => 5
  | noDevice => 6
  | argumentsTooLong => 7
  | execFormat => 8
  | badDescriptor => 9
  | noChild => 10
  | tryAgain => 11
  | accessDenied => 13
  | busy => 16
  | «exists» => 17
  | crossDevice => 18
  | notDirectory => 20
  | isDirectory => 21
  | invalidArgument => 22
  | tooManyOpenFiles => 24
  | notTerminal => 25
  | textFileBusy => 26
  | fileTooLarge => 27
  | noSpace => 28
  | illegalSeek => 29
  | brokenPipe => 32
  | nameTooLong => 36
  | directoryNotEmpty => 39
  | tooManyLinks => 40

/-- The symbol for the refusal. -/
def symbol : Errno → String
  | notPermitted => "EPERM"
  | noEntry => "ENOENT"
  | noProcess => "ESRCH"
  | interrupted => "EINTR"
  | inputOutput => "EIO"
  | noDevice => "ENXIO"
  | argumentsTooLong => "E2BIG"
  | execFormat => "ENOEXEC"
  | badDescriptor => "EBADF"
  | noChild => "ECHILD"
  | tryAgain => "EAGAIN"
  | accessDenied => "EACCES"
  | busy => "EBUSY"
  | «exists» => "EEXIST"
  | crossDevice => "EXDEV"
  | notDirectory => "ENOTDIR"
  | isDirectory => "EISDIR"
  | invalidArgument => "EINVAL"
  | tooManyOpenFiles => "EMFILE"
  | notTerminal => "ENOTTY"
  | textFileBusy => "ETXTBSY"
  | fileTooLarge => "EFBIG"
  | noSpace => "ENOSPC"
  | illegalSeek => "ESPIPE"
  | brokenPipe => "EPIPE"
  | nameTooLong => "ENAMETOOLONG"
  | directoryNotEmpty => "ENOTEMPTY"
  | tooManyLinks => "ELOOP"

/-- The refusal in words. -/
def description : Errno → String
  | notPermitted => "Operation not permitted"
  | noEntry => "No such file or directory"
  | noProcess => "No such process"
  | interrupted => "Interrupted system call"
  | inputOutput => "Input/output error"
  | noDevice => "No such device or address"
  | argumentsTooLong => "Argument list too long"
  | execFormat => "Exec format error"
  | badDescriptor => "Bad file descriptor"
  | noChild => "No child processes"
  | tryAgain => "Resource temporarily unavailable"
  | accessDenied => "Permission denied"
  | busy => "Device or resource busy"
  | «exists» => "File exists"
  | crossDevice => "Invalid cross-device link"
  | notDirectory => "Not a directory"
  | isDirectory => "Is a directory"
  | invalidArgument => "Invalid argument"
  | tooManyOpenFiles => "Too many open files"
  | notTerminal => "Inappropriate ioctl for device"
  | textFileBusy => "Text file busy"
  | fileTooLarge => "File too large"
  | noSpace => "No space left on device"
  | illegalSeek => "Illegal seek"
  | brokenPipe => "Broken pipe"
  | nameTooLong => "File name too long"
  | directoryNotEmpty => "Directory not empty"
  | tooManyLinks => "Too many levels of symbolic links"

/-- The refusal by symbol and words.  Here a loop of links has a wording of its own. -/
def named (e : Errno) : String :=
  match e with
  | tooManyLinks => "ELOOP: Too many symbolic links encountered"
  | tryAgain => "EAGAIN: Try again"
  | inputOutput => "EIO: I/O error"
  | badDescriptor => "EBADF: Bad file number"
  | e => e.symbol ++ ": " ++ e.description

end Errno

/-- Why a file could not be opened, or a stream not read or written. -/
inductive StreamFault where
  /-- The system refused the call. -/
  | system (errno : Errno)
  /-- The path is not there, as far as a stand-in for the system knows. -/
  | notFound
  /-- The reader is gone, as far as a stand-in for the system knows. -/
  | brokenPipe
  /-- The stand-in for a line source may not be read. -/
  | permissionDenied
  /-- A path holds a character that no path can hold. -/
  | nulInPath
  /-- A line holds bytes that are no UTF-8. -/
  | invalidEncoding
  deriving DecidableEq

/-- The wording of a fault. -/
def StreamFault.message : StreamFault → String
  | system errno => errno.description ++ " (os error " ++ toString errno.number ++ ")"
  | notFound => "entity not found"
  | brokenPipe => "broken pipe"
  | permissionDenied => "permission denied"
  | nulInPath => "file name contained an unexpected NUL byte"
  | invalidEncoding => "stream did not contain valid UTF-8"

end CommandShell
