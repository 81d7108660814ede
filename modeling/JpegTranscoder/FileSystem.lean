/-
**Files.**

A file system holds files and directories under paths from a working directory. Reading or writing
a path can fail, for what stands there or by a planned fault. A write that does not get its file
opened leaves it alone; one that fails later leaves it with the bytes written so far.

* `FileSystem.resolve` finds the path that a text names, `FileSystem.resolveNew` the path of a file
  that need not be there yet;
* `FileSystem.read` gives the contents of a file;
* `FileSystem.write` replaces the contents of a file, or makes it.
-/
import JpegTranscoder.Bytes
import JpegTranscoder.Error

namespace JpegTranscoder

/-- A path, as its components. It leads on from the working directory, which is the empty path; from
a directory around that one if it begins with `..`; or from the root if it begins with `/`. -/
abbrev Path := List String

namespace Path

def root : Path := ["/"]

/-- Whether a path is that of the root, of the working directory or of one around it. These are
always there. -/
def isAround (path : Path) : Bool := path == root || path.all (· == "..")

/-- The path of the directory around a path. The root is in itself. -/
def parent (path : Path) : Path :=
  if path = root then root else if path.isAround then path ++ [".."] else path.dropLast

/-- Where the path that a text names begins. -/
def start (text : String) : Path := if text.startsWith "/" then root else []

end Path

/-- What stands under a path. -/
inductive FileEntry where
  | file (contents : Bytes)
  | directory
  deriving DecidableEq

/-- A planned fault of the writes to a path. -/
inductive WriteFault where
  /-- The file is not opened. -/
  | unopened (error : StreamError)
  /-- The file is opened, and no more than so many bytes are written before the error. -/
  | torn (written : Nat) (error : StreamError)
  deriving DecidableEq

structure FileSystem where
  /-- The entries; of several for one path the first counts. -/
  entries : List (Path × FileEntry)
  /-- The planned fault of reading a path. -/
  readFault : Path → Option StreamError
  /-- The planned fault of writing to a path. -/
  writeFault : Path → Option WriteFault

namespace FileSystem

/-- Nothing is there. -/
def notFound : StreamError := ⟨.notFound, "No such file or directory (os error 2)"⟩

def isDirectory : StreamError := ⟨.other, "Is a directory (os error 21)"⟩

/-- A file is there where a directory is due. -/
def notDirectory : StreamError := ⟨.other, "Not a directory (os error 20)"⟩

/-- A name has more than 255 bytes, or a text more than 4095. -/
def nameTooLong : StreamError := ⟨.other, "File name too long (os error 36)"⟩

/-- A text holds a zero byte, which no name can. -/
def zeroByte : StreamError := ⟨.other, "file name contained an unexpected NUL byte"⟩

/-- A file system with the given entries and no faults. -/
def ofEntries (entries : List (Path × FileEntry)) : FileSystem :=
  ⟨entries, fun _ => none, fun _ => none⟩

/-- What stands under a path. -/
def entry (files : FileSystem) (path : Path) : Option FileEntry :=
  if path.isAround then some .directory
  else (files.entries.find? fun known => known.1 == path).map Prod.snd

/-! ### Names -/

/-- The path of a component in the directory under a path. An empty component and a single dot name
that directory itself, and a double dot the one around it. -/
def step (files : FileSystem) (path : Path) (component : String) : Except StreamError Path :=
  match files.entry path with
  | none => .error notFound
  | some (.file _) => .error notDirectory
  | some .directory =>
    if component = "" ∨ component = "." then .ok path
    else if component = ".." then .ok path.parent
    else if 255 < component.utf8ByteSize then .error nameTooLong
    else .ok (path ++ [component])

/-- The path that the components of a text name. -/
def walk (files : FileSystem) (text : String) (components : List String) :
    Except StreamError Path :=
  if text.contains (Char.ofNat 0) then .error zeroByte
  else if text.isEmpty then .error notFound
  else if 4095 < text.utf8ByteSize then .error nameTooLong
  else components.foldlM files.step (.start text)

/-- The path that a text names: all of it but its last component has to be there. The empty text
names nothing. -/
def resolve (files : FileSystem) (text : String) : Except StreamError Path :=
  files.walk text (text.splitOn "/")

/-- The path that a text names for a file that need not be there. A text that ends in a slash names
no file but a directory, even if nothing is there. -/
def resolveNew (files : FileSystem) (text : String) : Except StreamError Path :=
  if text.endsWith "/" then
    let named := (text.splitOn "/").reverse.dropWhile (· == "")
    match files.walk text (named.tail.reverse ++ ["."]) with
    | .error error => .error error
    | .ok _ => .error isDirectory
  else files.resolve text

/-! ### Contents -/

/-- Puts a file under a path, in front of what stood there. -/
def put (files : FileSystem) (path : Path) (contents : Bytes) : FileSystem :=
  { files with entries := (path, .file contents) :: files.entries }

def read (files : FileSystem) (path : Path) : Except StreamError Bytes :=
  match files.entry path with
  | some (.file contents) =>
    match files.readFault path with
    | none => .ok contents
    | some error => .error error
  | some .directory => .error isDirectory
  | none => .error notFound

/-- Writes a file. It is emptied when it is opened, before the first byte is written. -/
def write (files : FileSystem) (path : Path) (bytes : Bytes) :
    Except StreamError Unit × FileSystem :=
  match files.entry path with
  | some .directory => (.error isDirectory, files)
  | _ =>
    match files.writeFault path with
    | none => (.ok (), files.put path bytes)
    | some (.unopened error) => (.error error, files)
    | some (.torn written error) =>
      (if written < bytes.length then .error error else .ok (), files.put path (bytes.take written))

/-- Reads the file that a text names. -/
def readNamed (files : FileSystem) (name : String) : Except StreamError Bytes :=
  match files.resolve name with
  | .error error => .error error
  | .ok path => files.read path

/-- Writes the file that a text names. -/
def writeNamed (files : FileSystem) (name : String) (bytes : Bytes) :
    Except StreamError Unit × FileSystem :=
  match files.resolveNew name with
  | .error error => (.error error, files)
  | .ok path => files.write path bytes

end FileSystem

end JpegTranscoder
