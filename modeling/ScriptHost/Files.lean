/-
The file tree. Entries sit at absolute paths and are files, directories or symbolic links. A path is
walked component by component from the working directory or the root; the walk ends at an entry or
with the system's fault at the component where it stopped.
-/
import ScriptHost.Codecs

namespace ScriptHost

/-- A component of a path. -/
abbrev Component := Bytes

/-- What sits at a path. -/
inductive Entry where
  /-- A file, with the size the system claims it to have. -/
  | file (content : Bytes) (claimed : Nat)
  | directory
  | link (target : Bytes)
deriving DecidableEq

/-- A tree of files, with the working directory as absolute path and the codecs that files are read by. -/
structure Files where
  entries : List (List Component × Entry)
  working : List Component
  /-- The codecs that are installed. -/
  codecs : Codecs := .none

/-- Why a path leads nowhere. -/
inductive PathFault where
  | missing
  | notDirectory
  | isDirectory
  | tooManyLinks
  | nameTooLong
deriving DecidableEq

def PathFault.code : PathFault → Int
  | missing => 2
  | notDirectory => 20
  | isDirectory => 21
  | nameTooLong => 36
  | tooManyLinks => 40

def PathFault.text : PathFault → Text
  | missing => "No such file or directory"
  | notDirectory => "Not a directory"
  | isDirectory => "Is a directory"
  | tooManyLinks => "Too many levels of symbolic links"
  | nameTooLong => "File name too long"

namespace Files

/-! ## Paths as bytes -/

def slash : UInt8 := 0x2F

/-- The components of a path; empty ones stand for doubled and final slashes. -/
def components (path : Bytes) : List Component := path.splitOn slash

/-- The bytes of a path: UTF-8, where the surrogates U+DC80 to U+DCFF stand for single bytes. -/
def pathBytes (path : Text) : Except EncodingFault Bytes :=
  let stands (c : CodePoint) : Bool := 0xDC80 ≤ c.val && c.val ≤ 0xDCFF
  let rec go (pos : Nat) : Text → Except EncodingFault Bytes
    | [] => .ok []
    | c :: rest =>
      if c.isSurrogate then
        if stands c then (go (pos + 1) rest).map (UInt8.ofNat (c.val - 0xDC00) :: ·)
        else .error ⟨path, pos, pos + 1 + (rest.takeWhile CodePoint.isSurrogate).length⟩
      else (go (pos + 1) rest).map (Utf8.encodePoint c ++ ·)
  go 0 path

/-! ## Walking -/

/-- How many links are followed on one walk. -/
def linkLimit : Nat := 40

def at? (f : Files) (path : List Component) : Option Entry :=
  if path.isEmpty then some .directory else (f.entries.find? (·.1 = path)).map (·.2)

def parentName : Component := "..".toList.map fun c => UInt8.ofNat c.toNat

def ownName : Component := ".".toList.map fun c => UInt8.ofNat c.toNat

/-- Walks `todo` from the directory at `here`, or says what stopped the walk; the target of a link is
walked through `follow`. -/
def walkFrom (f : Files) (follow : List Component → Bytes → Except PathFault (List Component × Entry)) :
    List Component → List Component → Except PathFault (List Component × Entry)
  | here, [] => .ok (here, .directory)
  | here, name :: todo =>
    if name.isEmpty ∨ name = ownName then walkFrom f follow here todo
    else if name = parentName then walkFrom f follow here.dropLast todo
    else if 255 < name.length then .error .nameTooLong
    else
      let path := here ++ [name]
      match f.at? path with
      | none => .error .missing
      | some .directory => walkFrom f follow path todo
      | some (.file content claimed) =>
        if todo.isEmpty then .ok (path, .file content claimed) else .error .notDirectory
      | some (.link target) =>
        match follow here target with
        | .error e => .error e
        | .ok (place, .directory) => walkFrom f follow place todo
        | .ok (place, e) => if todo.isEmpty then .ok (place, e) else .error .notDirectory

/-- Walks a path from the directory at `here`, following at most so many links. -/
def walk (f : Files) : Nat → List Component → Bytes → Except PathFault (List Component × Entry)
  | links, here, path =>
    if path.isEmpty then .error .missing
    else if 4096 ≤ path.length then .error .nameTooLong
    else
      let start := if path.head? = some slash then [] else here
      walkFrom f (fun here target =>
        match links with
        | 0 => .error .tooManyLinks
        | n + 1 => walk f n here target) start (components path)

/-- What a path leads to. -/
def find (f : Files) (path : Bytes) : Except PathFault Entry :=
  (f.walk linkLimit f.working path).map (·.2)

/-! ## Reading and writing -/

/-- What reading a file brings. -/
structure Content where
  bytes : Bytes
  claimed : Nat

/-- The content of the file that a path leads to. -/
def read (f : Files) (path : Text) : Except Fault Content :=
  match pathBytes path with
  | .error e => .error (.encoding e)
  | .ok bytes =>
    if bytes.contains 0 then .error (.value (some "embedded null byte"))
    else
      match f.find bytes with
      | .ok (.file content claimed) => .ok ⟨content, claimed⟩
      | .ok _ => .error (.system (.numbered 21 PathFault.isDirectory.text (some path)))
      | .error e => .error (.system (.numbered e.code e.text (some path)))

/-- Whether a path leads anywhere. -/
def has (f : Files) (path : Text) : Bool :=
  match pathBytes path with
  | .error _ => false
  | .ok bytes => !bytes.contains 0 && (f.find bytes).isOk

/-- The tree with an entry at an absolute path and directories above it. -/
def put (f : Files) (path : List Component) (e : Entry) : Files :=
  let above := (List.range path.length).filterMap fun n =>
    let dir := path.take n
    if n = 0 || (f.at? dir).isSome then none else some (dir, Entry.directory)
  { f with entries := f.entries.filter (·.1 ≠ path) ++ above ++ [(path, e)] }

end Files

end ScriptHost
