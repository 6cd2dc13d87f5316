/-! Mount options: lists of words, of which some stand for flags of a mount. -/

namespace FuseVolumes.Mount

/-- Appends the options that are not there yet. -/
def addOptions : List String → List String → List String
  | options, [] => options
  | options, o :: rest =>
    if options.contains o then addOptions options rest else addOptions (options ++ [o]) rest

/-- Both lists in order, every option once. -/
def unionOptions (base flags : List String) : List String :=
  addOptions [] (base ++ flags)

/-- The options of every mount for a pod. -/
def bindOptions : List String := ["bind", "_netdev"]

/-- Flags that a mount can be given once it is in place. -/
inductive Flag
  | readOnly
  | noSuid
  | noDev
  | noExec
  | noAtime
  | noDirAtime
  | relAtime
  deriving DecidableEq, Repr

namespace Flag

def all : List Flag := [readOnly, noSuid, noDev, noExec, noAtime, noDirAtime, relAtime]

def option : Flag → String
  | readOnly => "ro"
  | noSuid => "nosuid"
  | noDev => "nodev"
  | noExec => "noexec"
  | noAtime => "noatime"
  | noDirAtime => "nodiratime"
  | relAtime => "relatime"

/-- The kernel's number of the flag. -/
def bit : Flag → Nat
  | readOnly => 1
  | noSuid => 2
  | noDev => 4
  | noExec => 8
  | noAtime => 1024
  | noDirAtime => 2048
  | relAtime => 2097152

/-- The flag an option stands for. Options that state the default, and unknown ones, stand
for none. -/
def ofOption? (option : String) : Option Flag :=
  all.find? (·.option == option)

end Flag

/-- A set of flags as the kernel writes it. -/
def addFlag (bits : Nat) (option : String) : Nat :=
  match Flag.ofOption? option with
  | some flag => bits ||| flag.bit
  | none => bits

/-- The flags that a mount with these options is to have. -/
def remountFlags (options : List String) : Nat :=
  options.foldl addFlag 0

end FuseVolumes.Mount
