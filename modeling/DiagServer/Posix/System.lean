import DiagServer.Host.FileSystem

/-!
# What stands in every file system

Every system has a number of directories, two devices and the programs. The programs stand in one
directory; another name for it is a link. A program is a file that no text can be mistaken for.
-/

namespace DiagServer.Posix

/-- The components of a path from the root. -/
def placeOf (path : String) : List (List UInt8) := Path.components (Text.Utf8.encode path)

/-- The device that is empty and that swallows what is written to it. -/
def nullDevice : List (List UInt8) := placeOf "/dev/null"

/-- The device that holds zero bytes for ever. -/
def zeroDevice : List (List UInt8) := placeOf "/dev/zero"

/-- The directory where the programs stand. -/
def programDirectory : List (List UInt8) := placeOf "/usr/bin"

/-- The names of the programs. -/
def programNames : List String :=
  ["cat", "echo", "false", "head", "printf", "sh", "test", "tr", "true", "["]

/-- The directories of every system. -/
def standingDirectories : List String :=
  ["/dev", "/etc", "/home", "/opt", "/proc", "/root", "/run", "/srv", "/sys", "/tmp", "/usr/bin",
    "/usr/lib", "/usr/local/bin", "/usr/local/sbin", "/usr/sbin", "/usr/share", "/var/tmp"]

/-- The links of every system: a name of a directory, and where it leads. -/
def standingLinks : List (String × String) :=
  [("/bin", "/usr/bin"), ("/lib", "/usr/lib"), ("/sbin", "/usr/sbin")]

/-- The bytes that a program stands as. -/
def programBytes : List UInt8 := [0x7F, 0x45, 0x4C, 0x46, 0xFF]

/-- The files and directories of every system. -/
def standingFiles : FileSystem :=
  let fs : FileSystem :=
    { links := standingLinks.map fun (name, target) => (placeOf name, placeOf target) }
  let fs := standingDirectories.foldl (fun fs path => fs.addDirectory (placeOf path)) fs
  let fs := [nullDevice, zeroDevice].foldl (fun fs place => fs.addFile place []) fs
  programNames.foldl (fun fs name =>
    fs.addFile (programDirectory ++ [Text.Utf8.encode name]) programBytes) fs

/-- The program that a path leads to. -/
def programAt? (fs : FileSystem) (path : List UInt8) : Option String :=
  match fs.resolve path with
  | .error _ => none
  | .ok place =>
      programNames.find? fun name =>
        place == programDirectory ++ [Text.Utf8.encode name] && (fs.lookup path).isOk

end DiagServer.Posix
