import Polybuild.Disk.Basic

/-!
# Access to a disk through paths

A path is followed piece by piece, from the root or from the working directory. Every piece
asks for a directory to stand in: an empty piece and a dot stay there, two dots go to the
directory above, a name goes to the entry of that name. So a slash behind the name of a file is
a fault, and two dots behind a name ask for the directory that the name leads to. `locate`
gives the location that a path leads to.

`spot` follows a path up to its last piece and says where an entry of that name would stand.
`makeDirectory` and `write` are told from it. `makeDirectories` makes a directory and, when one
is missing above it, those above first. A failed access leaves the disk as it was, apart from
directories made on the way.

An access fails by the shape of the tree and the path alone: where a directory is missing or a file
stands in the way, where a name is too long, where the path cannot be one. Nobody lacks permission
and there is always room. So `write` is never refused where a file stands already, it puts all of
the bytes there or none, and `read` is never refused where there is a file. There are no links, so a
file has one place and no way through names leads back up. A name is a text; what other octets do as
names is told in `Polybuild.Naming.Basic`. Only names are limited in length, paths are not. Nothing
but the functions of this library changes a disk while they run. A `FileSystem` is without the most
of these limits.
-/

namespace Polybuild

namespace Disk

/-- The longest name of an entry, in bytes. -/
def longestName : Nat := 255

/-- The location one piece further. -/
def step (d : Disk) (l : Location) (piece : String) : Except Fault Location :=
  if d.isDirectoryAt l then
    if piece = "" ∨ piece = "." then .ok l
    else if piece = ".." then .ok l.tail
    else if longestName < piece.utf8ByteSize then .error .nameTooLong
    else if (d.entryAt? (piece :: l)).isSome then .ok (piece :: l)
    else .error .notFound
  else if (d.entryAt? l).isSome then .error .notADirectory
  else .error .notFound

/-- The location at the end of a list of pieces. -/
def follow (d : Disk) : Location → List String → Except Fault Location
  | l, [] => .ok l
  | l, piece :: rest => (d.step l piece).bind fun next => d.follow next rest

/-- The location that a path starts from. -/
def start (d : Disk) (p : Path) : Location :=
  if p.isAbsolute then [] else d.workDir

/-- Whether no file can have this path, whatever stands on the disk. -/
def unusable? (p : Path) : Option Fault :=
  if p.text.toList.contains '\x00' then some .nulInName
  else if p.text = "" then some .notFound
  else none

/-- The location that a path leads to. -/
def locate (d : Disk) (p : Path) : Except Fault Location :=
  match unusable? p with
  | some fault => .error fault
  | none => d.follow (d.start p) (Text.split '/' p.text)

/-- The entry that a path leads to. -/
def find? (d : Disk) (p : Path) : Option Entry :=
  match d.locate p with
  | .ok l => d.entryAt? l
  | .error _ => none

/-- Whether a path leads to anything. -/
def holds (d : Disk) (p : Path) : Bool :=
  (d.find? p).isSome

/-- Whether a path leads to a directory. -/
def isDirectory (d : Disk) (p : Path) : Bool :=
  match d.find? p with
  | some .directory => true
  | _ => false

/-- Whether a path leads to a file. -/
def isFile (d : Disk) (p : Path) : Bool :=
  match d.find? p with
  | some (.file _) => true
  | _ => false

/-- The location of the directory that a path leads to. -/
def directory? (d : Disk) (p : Path) : Option Location :=
  match d.locate p with
  | .ok l => if d.isDirectoryAt l then some l else none
  | .error _ => none

theorem isDirectoryAt_of_directory? {d : Disk} {p : Path} {l : Location}
    (h : d.directory? p = some l) : d.isDirectoryAt l = true := by
  unfold directory? at h
  split at h
  · split at h
    · simp_all
    · simp at h
  · simp at h

/-- The bytes of the file that a path leads to. -/
def read (d : Disk) (p : Path) : Except Fault ByteArray :=
  (d.locate p).bind fun l =>
    match d.entryAt? l with
    | some (.file content) => .ok content
    | some .directory => .error .isADirectory
    | none => .error .notFound

/-- The text of the file that a path leads to. -/
def readText (d : Disk) (p : Path) : Except Fault String :=
  (d.read p).bind fun content =>
    match String.fromUTF8? content with
    | some text => .ok text
    | none => .error .notText

/-- Where the last piece of a path leads. -/
inductive Spot where
  /-- To a directory that is there already: the root, or the end of a path in dots. -/
  | standing
  /-- To the entry of a name in a directory; `closed` if slashes stand behind the name. -/
  | entry (dir : Location) (name : String) (closed : Bool)
  deriving DecidableEq, Repr

/-- Where an entry at the end of a path would stand. -/
def spot (d : Disk) (p : Path) : Except Fault Spot :=
  match unusable? p with
  | some fault => .error fault
  | none =>
      let pieces := Text.split '/' p.text
      match pieces.reverse.dropWhile (· == "") with
      | [] => .ok .standing
      | last :: before =>
          (d.follow (d.start p) before.reverse).bind fun dir =>
            if d.isDirectoryAt dir then
              if last = "." ∨ last = ".." then .ok .standing
              else if longestName < last.utf8ByteSize then .error .nameTooLong
              else .ok (.entry dir last (pieces.getLast? == some ""))
            else if (d.entryAt? dir).isSome then .error .notADirectory
            else .error .notFound

/-- The disk with a new entry, if the directory is there and has no entry of that name. -/
def createAt? (d : Disk) (dir : Location) (name : String) (e : Entry) : Option Disk :=
  if hdir : d.entryAt? dir = some .directory then
    if hnew : d.entryAt? (name :: dir) = none then some (d.create dir name e hdir hnew) else none
  else none

/-- One new directory. -/
def makeDirectory (d : Disk) (p : Path) : Except Fault Disk :=
  (d.spot p).bind fun spot =>
    match spot with
    | .standing => .error .alreadyExists
    | .entry dir name _ =>
        match d.createAt? dir name .directory with
        | some d' => .ok d'
        | none => .error .alreadyExists

/-- A file with the given bytes, new or in place of the bytes that it had. -/
def write (d : Disk) (p : Path) (content : ByteArray) : Except Fault Disk :=
  (d.spot p).bind fun spot =>
    match spot with
    | .standing => .error .isADirectory
    | .entry dir name closed =>
        if closed then .error .isADirectory
        else
          match d.entryAt? (name :: dir) with
          | some .directory => .error .isADirectory
          | some (.file _) => .ok (d.overwrite (name :: dir) content)
          | none =>
              match d.createAt? dir name (.file content) with
              | some d' => .ok d'
              | none => .error .notADirectory

/-- A file with the given text. -/
def writeText (d : Disk) (p : Path) (text : String) : Except Fault Disk :=
  d.write p text.toUTF8

/-- The first directory of a list, made in the next one, which is made in its turn when it is
missing. A directory that is there already is no fault. The disk is given back in both cases,
because directories made on the way stay. -/
def makeFirst (d : Disk) : List Path → Option Fault × Disk
  | [] => (none, d)
  | p :: above =>
      if p.text = "" then (none, d)
      else
        match d.makeDirectory p with
        | .ok d' => (none, d')
        | .error .notFound =>
            if above.isEmpty then (some .notFound, d)
            else
              match d.makeFirst above with
              | (some fault, d') => (some fault, d')
              | (none, d') =>
                  match d'.makeDirectory p with
                  | .ok d'' => (none, d'')
                  | .error fault => (if d'.isDirectory p then none else some fault, d')
        | .error fault => (if d.isDirectory p then none else some fault, d)

/-- A directory, and those above it that are missing. -/
def makeDirectories (d : Disk) (p : Path) : Option Fault × Disk :=
  d.makeFirst (p :: p.above)

/-- A file with the given text, in a directory that is made first if it is missing. -/
def place (d : Disk) (p : Path) (text : String) : Option Fault × Disk :=
  let (fault, d) :=
    match p.parent? with
    | some dir => d.makeDirectories dir
    | none => (none, d)
  match fault with
  | some fault => (some fault, d)
  | none =>
      match d.writeText p text with
      | .ok d' => (none, d')
      | .error fault => (some fault, d)

/-- The disk without what a path leads to. The root cannot be removed. -/
def delete (d : Disk) (p : Path) : Except Fault Disk :=
  (d.locate p).bind fun l =>
    if l = [] then .error .isADirectory else .ok (d.remove l)

end Disk

end Polybuild
