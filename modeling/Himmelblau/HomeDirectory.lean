/-
  **Home directories of the tasks daemon**, mirror of `create_home_directory` of
  `daemon/src/tasks_daemon.rs`, with the part of `std::path` that it uses.

  What the file system does is outside: every call that can fail may fail with a text.
-/
import Himmelblau.FunctionBody
import Himmelblau.Interface

namespace Himmelblau.HomeDirectory

open Interface FunctionBody

variable {F α : Type}

/-! ## 1. Paths -/

inductive Component where
  | rootDir
  | curDir
  | parentDir
  | normal (name : String)
  deriving DecidableEq, Repr

def component : List Char → Option Component
  | [] => none
  | ['.'] => none
  | ['.', '.'] => some .parentDir
  | name => some (.normal (String.ofList name))

/-- The root, or the dot in front of a relative path. -/
def front : List (List Char) → List Component
  | [] :: _ :: _ => [.rootDir]
  | ['.'] :: _ => [.curDir]
  | _ => []

def components (path : String) : List Component :=
  let parts := path.toList.splitOn '/'
  front parts ++ parts.filterMap component

def parent (path : String) : Option (List Component) :=
  match (components path).getLast? with
  | none => none
  | some .rootDir => none
  | some _ => some (components path).dropLast

/-- `Path::join`, for a relative path. -/
def join (path rel : String) : String :=
  if path.toList.getLast? = some '/' then path ++ rel else path ++ "/" ++ rel

/-! ## 2. The file system -/

inductive Labeling where
  | new (uid : UInt32) (homePrefix : String)
  | setfscreatecon
  | labelPath (rel : String)
  | equivalenceRule (path : String)
  | defaultContext
  deriving DecidableEq, Repr

structure FileTools (F : Type) where
  pathExists : (path : String) → F → Bool
  isDir : (path : String) → F → Bool
  /-- The permissions that are masked out are given where they are set. -/
  createDirAll : (path : String) → (umask : Option ℕ) → F → Except String Unit × F
  lchown : (path : String) → (uid gid : UInt32) → F → Except String Unit × F
  /-- What is below a directory, relative to it, and whether it is a directory itself. -/
  walkDir : (path : String) → F → List (String × Bool)
  copy : (source dest : String) → F → Except String Unit × F
  isSymlink : (path : String) → F → Except String Bool
  removeFile : (path : String) → F → Except String Unit × F
  symlink : (target link : String) → F → Except String Unit × F
  label : Labeling → F → Except String Unit × F

abbrev Job (F α : Type) := Body F (Except String Unit) α

def attempt (f : F → Except String α × F) : Job F α := do
  match ← Body.call f with
  | .ok a => return a
  | .error e => Body.leave (.error e)

/-! ## 3. The task -/

section Task

variable (T : FileTools F) (info : HomeDirectoryInfo) (homePrefix : String)
  (useEtcSkel useSelinux : Bool)

/-- Final sanity check to prevent certain classes of attacks. -/
def sanitize (name : String) : String :=
  String.ofList ((name.toList.dropWhile (· == '.')).filter fun c => c != '/' && c != '\\')

def assertWithin (path outside corrupt : String) : Job F Unit :=
  match parent path with
  | some pp => if pp = components homePrefix then return () else Body.leave (.error outside)
  | none => Body.leave (.error corrupt)

def label (l : Labeling) : Job F Unit :=
  if useSelinux then attempt (T.label l) else return ()

def copySkel (hdPath : String) : List (String × Bool) → Job F Unit
  | [] => return ()
  | (rel, isDir) :: entries => do
    let dest := join hdPath rel
    label T useSelinux (.labelPath rel)
    attempt (if isDir then T.createDirAll dest none else T.copy (join "/etc/skel/" rel) dest)
    attempt (T.lchown dest info.uid info.gid)
    label T useSelinux (.equivalenceRule hdPath)
    copySkel hdPath entries

def createMissing (hdPath : String) : Job F Unit := do
  label T useSelinux .setfscreatecon
  attempt (T.createDirAll hdPath (some 0o027))
  attempt (T.lchown hdPath info.uid info.gid)
  if useEtcSkel && T.pathExists "/etc/skel/" (← Body.get) then
    copySkel T info useSelinux hdPath (T.walkDir "/etc/skel/" (← Body.get))

/-- A link that exists is made again; what is no link stays. -/
def linkAlias (name linkName : String) : Job F Unit := do
  let aliasPath := homePrefix ++ sanitize linkName
  assertWithin homePrefix aliasPath "Invalid home directory alias - not within home_prefix"
    "Invalid/Corrupt alias directory path - no prefix found"
  if T.pathExists aliasPath (← Body.get) then
    if ← attempt fun f => (T.isSymlink aliasPath f, f) then
      attempt (T.removeFile aliasPath)
      attempt (T.symlink name aliasPath)
  else attempt (T.symlink name aliasPath)

def createHomeDirectory : F → Except String Unit × F :=
  Body.run do
    let name := sanitize info.name
    let f ← Body.get
    if !T.pathExists homePrefix f || !T.isDir homePrefix f then
      Body.leave (.error "Invalid home_prefix from configuration")
    let hdPath := homePrefix ++ name
    assertWithin homePrefix hdPath "Invalid home directory name - not within home_prefix"
      "Invalid/Corrupt home directory path - no prefix found"
    label T useSelinux (.new info.uid homePrefix)
    if !T.pathExists hdPath (← Body.get) then createMissing T info useEtcSkel useSelinux hdPath
    label T useSelinux .defaultContext
    info.aliases.forM (linkAlias T homePrefix name)
    return .ok ()

end Task

end Himmelblau.HomeDirectory
