import ScriptDebugger.Host.Disk

/-!
# File systems

What the program asks of files, as operations in a monad. The program is written once over them: a disk
that is held as a value gives one file system, and the outside world another.
-/

namespace ScriptDebugger

/-- The operations on files. -/
structure FileSystem (m : Type → Type) where
  /-- The bytes of a file. -/
  read : String → m (Except ReadError (List UInt8))
  /-- Makes an empty file. -/
  create : String → m (Except FileError Unit)
  /-- Changes the directory that relative paths start from. -/
  enter : String → m (Except FileError Unit)

namespace Disk

/-- Replaces the disk if an operation gives a new one. -/
def update (operation : Disk → Except FileError Disk) : StateM Disk (Except FileError Unit) :=
  fun disk =>
    match operation disk with
    | .error error => (.error error, disk)
    | .ok changed => (.ok (), changed)

/-- The file system of the disk that is the state. -/
def fileSystem : FileSystem (StateM Disk) where
  read path := fun disk => (disk.read path, disk)
  create path := update fun disk => disk.create path
  enter path := update fun disk => disk.enter path

end Disk

end ScriptDebugger
