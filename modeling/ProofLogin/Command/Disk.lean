import ProofLogin.Command.Host

/-!
# Command/Disk — a disk as a value

A disk holds files and folders at places. A path is walked name by name, and every name but the last
one has to lead to a folder that is there. A command runs in a folder of which only the inside is
known; the folders around it are there, and nothing else is known to be in them.
`Rehearsal.host` runs commands on such a disk and keeps what they print.
-/

namespace ProofLogin

/-- **Where a walk begins**: a number of folders above the one that a command runs in, or at the
root of the machine. -/
inductive Anchor where
  | above (levels : Nat)
  | root
  deriving DecidableEq

/-- **A place on a disk**: where to begin, and the names on the way from there to the inside. -/
structure Place where
  anchor : Anchor
  names : List String
  deriving DecidableEq

namespace Place

/-- The folder that a command runs in. -/
def here : Place := ⟨.above 0, []⟩

/-- The folder around a place; the root is around itself. -/
def outside (p : Place) : Place :=
  match p.anchor, p.names with
  | .above levels, [] => ⟨.above (levels + 1), []⟩
  | .root, [] => p
  | anchor, names => ⟨anchor, names.dropLast⟩

/-- The place of a name in a folder; one point is the folder itself, two are the one around it. -/
def enter (p : Place) (name : String) : Place :=
  if name = "." then p
  else if name = ".." then p.outside
  else ⟨p.anchor, p.names ++ [name]⟩

/-- One place is inside of another. -/
def isInside (p q : Place) : Bool :=
  p.anchor = q.anchor && q.names.isPrefixOf p.names && p != q

end Place

/-- **A path as it is written**: where to begin, and the names to walk by. -/
structure Path where
  start : Place
  names : List String
  deriving DecidableEq

namespace Path

/-- The path that a text spells, whether or not a stroke ends it. -/
def spelled (s : String) : Path where
  start := if s.startsWith "/" then ⟨.root, []⟩ else .here
  names := (s.splitOn "/").filter (· ≠ "")

/-- The path that a text spells. One that ends with a stroke leads into a folder. -/
def ofText (s : String) : Path :=
  let p := spelled s
  if s.endsWith "/" then { p with names := p.names ++ ["."] } else p

/-- The place of a path on a disk where everything is there. -/
def place (p : Path) : Place :=
  p.names.foldl Place.enter p.start

/-- A path and the paths of the folders on its way, from inside to outside. -/
def withFolders (p : Path) : List Path :=
  let names := p.names.filter (· ≠ ".")
  p :: ((List.range names.length).drop 1).reverse.map fun n => ⟨p.start, names.take n⟩

end Path

/-- **Files and folders at places.** -/
structure Disk where
  files : List (Place × Bytes)
  folders : List Place
  deriving DecidableEq

namespace Disk

/-- The file at a place. -/
def file? (d : Disk) (p : Place) : Option Bytes :=
  d.files.lookup p

/-- A folder is at a place: one that was made, or one that something lies in. -/
def isFolder (d : Disk) (p : Place) : Bool :=
  p.names.isEmpty || d.folders.contains p || d.files.any (fun (q, _) => q.isInside p)
    || d.folders.any (·.isInside p)

/-- The most octets of a name. -/
def longestName : Nat := 255

/-- The most octets of a path. -/
def longestPath : Nat := 4095

/-- One name of a walk further. -/
def step (d : Disk) (p : Place) (name : String) : Except FileFault Place :=
  if d.isFolder p then
    if longestName < name.utf8ByteSize then .error .nameTooLong else .ok (p.enter name)
  else .error (if (d.file? p).isSome then .underFile else .missing)

/-- **The place that a path leads to.** Whether anything is there is not asked. -/
def walk (d : Disk) (p : Path) : Except FileFault Place :=
  p.names.foldlM d.step p.start

/-- The place that a text leads to. -/
def find (d : Disk) (s : String) : Except FileFault Place :=
  if longestPath < s.utf8ByteSize then .error .nameTooLong else d.walk (.ofText s)

/-- **The octets of the file that a text names.** -/
def read (d : Disk) (s : String) : Except FileFault Bytes := do
  let p ← d.find s
  match d.file? p with
  | some bs => .ok bs
  | none => .error (if d.isFolder p then .isFolder else .missing)

/-- **The disk with a file written**, in the place of one that was there. -/
def write (d : Disk) (s : String) (bs : Bytes) : Except FileFault Disk := do
  let p ← d.find s
  if d.isFolder p then .error .isFolder
  else .ok { d with files := (p, bs) :: d.files.filter fun (q, _) => q ≠ p }

/-- The disk with a folder at the end of a path, which may be there already. -/
def makeLast (d : Disk) (path : Path) : Except FileFault Disk := do
  let p ← d.walk path
  if (d.file? p).isSome then .error .occupied
  else if d.isFolder p then .ok d
  else .ok { d with folders := p :: d.folders }

/-- **The disk with a folder made**, and every folder on the way to it: the inmost one that can be
made is made first, and then those inside of it. -/
def makeFolder (d : Disk) (s : String) : Except FileFault Disk := do
  if longestPath < s.utf8ByteSize then .error .nameTooLong
  else
    let paths := (Path.spelled s).withFolders
    let missing := paths.takeWhile fun p => d.makeLast p matches .error .missing
    let d ← ((paths.drop missing.length).take 1).foldlM makeLast d
    missing.reverse.foldlM makeLast d

end Disk

/-- **What a rehearsal goes on with**: the disk, the lines printed, the last one first, and the
number of draws. -/
structure Rehearsal where
  disk : Disk
  printed : List String
  draws : Nat

namespace Rehearsal

/-- The file of a machine that is always empty. -/
def nullFile : Place := ⟨.root, ["dev", "null"]⟩

/-- A disk with files, before anything has been done. -/
def start (files : List (String × Bytes)) : Rehearsal :=
  ⟨⟨files.map (fun (s, bs) => ((Path.ofText s).place, bs)) ++ [(nullFile, [])], []⟩, [], 0⟩

/-- The files in the folder that commands run in, by their paths from there. -/
def files (r : Rehearsal) : List (String × Bytes) :=
  r.disk.files.filterMap fun (p, bs) =>
    if p.anchor = .above 0 then some ("/".intercalate p.names, bs) else none

/-- What has been printed. -/
def output (r : Rehearsal) : String :=
  String.join (r.printed.reverse.map (· ++ "\n"))

/-- The disk replaced, unless the change fails. -/
def change (f : Disk → Except FileFault Disk) : StateM Rehearsal (Except FileFault Unit) := do
  let r ← get
  match f r.disk with
  | .error fault => return .error fault
  | .ok disk =>
    set { r with disk }
    return .ok ()

/-- **The host of a rehearsal**, with its draws, its time and its environment. -/
def host (draw : Nat → Bytes32) (now : Int64) (setting? : String → Option String) :
    Host (StateM Rehearsal) where
  read s := do return (← get).disk.read s
  write s bs := change (·.write s bs)
  makeFolder s := change (·.makeFolder s)
  print s := modify fun r => { r with printed := s :: r.printed }
  random := do
    modify fun r => { r with draws := r.draws + 1 }
    return draw (← get).draws
  now := pure now
  setting?

end Rehearsal

end ProofLogin
