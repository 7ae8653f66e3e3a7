-- SUMMARY: A file system as the list of its entries, with links, changes and the view of it.
import CoverageOverlay.Files.View

/-!
# File trees

A file tree is a whole file system, as a list of entries in the order of their
creation. The place of an entry is the list of names that leads to it from the
top. Every directory but the top has an entry of its own, so a directory stays
when its last entry goes. A path that does not start at the top starts in the
working directory.

Following a path goes step by step. A link is replaced by its target, at most
forty times, and above the top there is the top again. Not everything that is
there can be read: the system may keep the contents of a file to itself.
-/

namespace CoverageOverlay

/-- The names that lead to an entry from the top of a tree. -/
abbrev Place := List Name

/-- What can stand in a directory. -/
inductive Entry
  | file (bytes : List UInt8)
  /-- A regular file whose contents the system does not give, and why. -/
  | sealed (why : Fault)
  | directory
  | link (target : Path)
deriving DecidableEq, Repr, Inhabited

/-- Whether an entry is a regular file, whoever may read it. -/
def Entry.isRegular : Entry → Bool
  | file _ | sealed _ => true
  | directory | link _ => false

/-- A file system and a place in it to start from. -/
structure FileTree where
  /-- The entries with their places, oldest first. -/
  entries : List (Place × Entry)
  /-- Where the working directory is. -/
  working : Place
deriving DecidableEq, Repr, Inhabited

namespace FileTree

/-- The tree with nothing but the working directory. -/
def empty : FileTree :=
  ⟨[(["work".toList], .directory)], ["work".toList]⟩

/-- The entry at a place. -/
def entry? (t : FileTree) (place : Place) : Option Entry :=
  if place = [] then some .directory else t.entries.lookup place

/-! ## Following paths -/

/-- The number of links that may be followed on one path. -/
def linkLimit : Nat := 40

/-- The number of bytes that a name may have. -/
def nameLimit : Nat := 255

/-- The number of bytes that a path may have. -/
def pathLimit : Nat := 4095

/-- Where a path starts that is used in the directory at `place`. -/
def startIn (place : Place) (p : Path) : Place :=
  if p.isAbsolute then [] else place

/-- Go on from a place along steps, to the place where they lead if anything is there. At most `links`
links are followed; the last step is followed only with `follow`. -/
def walk (t : FileTree) (follow : Bool) :
    (links : Nat) → Place → List Text → Except Fault (Option Place)
  | _, place, [] => .ok (some place)
  | links, place, step :: rest =>
    if t.entry? place ≠ some .directory then .error .notDirectory
    else
      match Component.ofStep? step with
      | some (.name n) =>
        if Text.byteLength n > nameLimit then .error .nameTooLong
        else
          match t.entry? (place ++ [n]) with
          | none => .ok none
          | some (.link target) =>
            if rest = [] ∧ follow = false then .ok (some (place ++ [n]))
            else
              match links with
              | 0 => .error .tooManyLinks
              | links + 1 => walk t follow links (startIn place target) (target.steps ++ rest)
          | some _ => walk t follow links (place ++ [n]) rest
      | some .up => walk t follow links place.dropLast rest
      | _ => walk t follow links place rest
termination_by links _ steps => (links, steps.length)

/-- The place that a path leads to, if anything is there. -/
def locate (t : FileTree) (follow : Bool) (p : Path) : Except Fault (Option Place) :=
  if p.chars.any (·.toNat = 0) then .error .nullInName
  else if p.chars = [] then .ok none
  else if Text.byteLength p.chars > pathLimit then .error .nameTooLong
  else walk t follow linkLimit (startIn t.working p) p.steps

/-- The bytes of the file that a path leads to. -/
def read (t : FileTree) (p : Path) : Except Fault (List UInt8) :=
  match t.locate true p with
  | .error fault => .error fault
  | .ok none => .error .notFound
  | .ok (some place) =>
    match t.entry? place with
    | some (.file bytes) => .ok bytes
    | some (.sealed why) => .error why
    | _ => .error .isDirectory

/-- Whether a path leads to something. -/
def present (t : FileTree) (p : Path) : Bool :=
  match t.locate true p with
  | .ok spot => spot.isSome
  | .error _ => false

/-! ## What is below a directory -/

/-- The steps from `place` to `inner`, if `inner` is `place` or below it. -/
def stepsFrom? (place inner : Place) : Option (List Name) :=
  if place.isPrefixOf inner then some (inner.drop place.length) else none

/-- The steps from `place` to an entry, if it is a regular file strictly below. -/
def stepsToFile? (place : Place) : Place × Entry → Option (List Name)
  | (inner, e) => if e.isRegular then (stepsFrom? place inner).filter (· ≠ []) else none

/-- The regular files strictly below a place. -/
def filesBelow (t : FileTree) (place : Place) : List (List Name) :=
  t.entries.filterMap (stepsToFile? place)

/-- The regular files below the directory that a path leads to; a link is followed if it leads to a
directory. -/
def below (t : FileTree) (p : Path) : List (List Name) :=
  match t.locate false p with
  | .ok (some place) =>
    match t.entry? place with
    | some (.file _) | some (.sealed _) => [[]]
    | some .directory => t.filesBelow place
    | some (.link _) =>
      match t.locate true p with
      | .ok (some target) => if t.entry? target = some .directory then t.filesBelow target else []
      | _ => []
    | none => []
  | _ => []

/-- The view of a tree. -/
def files (t : FileTree) : Files :=
  ⟨t.read, t.present, t.below⟩

/-! ## Changes -/

/-- Put an entry at a place, over what stood there. -/
def set (t : FileTree) (place : Place) (e : Entry) : FileTree :=
  { t with entries := t.entries.filter (·.1 ≠ place) ++ [(place, e)] }

/-- Go to the directory that a component leads to, and make it if it is missing. -/
def enter (t : FileTree) (place : Place) : Component → FileTree × Place
  | .name n =>
    match t.entry? (place ++ [n]) with
    | none => (t.set (place ++ [n]) .directory, place ++ [n])
    | some (.link target) =>
      match t.walk true linkLimit (startIn place target) target.steps with
      | .ok (some inner) => (t, inner)
      | _ => (t, place ++ [n])
    | some _ => (t, place ++ [n])
  | .up => (t, place.dropLast)
  | .here => (t, place)
  | .root => (t, [])

/-- Go along components and make the directories that are missing. -/
def enterAll (t : FileTree) (components : List Component) : FileTree × Place :=
  components.foldl (fun (t, place) c => t.enter place c) (t, t.working)

/-- Put an entry where a path leads, with the directories on the way. -/
def put (t : FileTree) (p : Path) (e : Entry) : FileTree :=
  let (t, directory) := t.enterAll p.components.dropLast
  match p.fileName? with
  | none => t
  | some n =>
    let place := directory ++ [n]
    if e = .directory ∧ t.entry? place = some .directory then t else t.set place e

/-- The place of the entry that a path names; a link at its end is not followed. -/
def placeOf? (t : FileTree) (p : Path) : Option Place :=
  match t.locate false p with
  | .ok spot => spot
  | .error _ => none

/-- Remove the entry that a path names and everything below it. The working directory stays, and so do
the directories that lead to it. -/
def remove (t : FileTree) (p : Path) : FileTree :=
  match t.placeOf? p with
  | none => t
  | some place =>
    { t with entries := t.entries.filter fun (inner, _) =>
        !place.isPrefixOf inner || inner.isPrefixOf t.working }

end FileTree

end CoverageOverlay
