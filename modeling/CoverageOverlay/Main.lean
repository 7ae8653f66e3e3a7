-- SUMMARY: The command line program: reads files, runs a request, writes what it gives, and follows changes.
import CoverageOverlay.CommandLine.Program

/-!
# The command line program

The program reads from the file system what a request can ask for, runs the
request on this view, and writes what the request gives. A watch then looks at
its two files again and again and takes the steps of the watch loop.
-/

namespace CoverageOverlay.Main

open CommandLine

/-! ## Reading -/

/-- The fault for a system error. -/
def faultOf : IO.Error → Fault
  | .noFileOrDirectory .. => .notFound
  | .inappropriateType _ 20 _ => .notDirectory
  | .inappropriateType _ 21 _ => .isDirectory
  | .invalidArgument _ 36 _ => .nameTooLong
  | .invalidArgument _ 40 _ => .tooManyLinks
  | e => .other (toString e)

/-- Read one file. -/
def readPath (p : Path) : IO (Path × Except Fault (List UInt8)) := do
  if p.chars.any (·.toNat = 0) then return (p, .error .nullInName)
  if p.chars = [] then return (p, .error .notFound)
  try
    return (p, .ok (← IO.FS.readBinFile p.text).toList)
  catch e => return (p, .error (faultOf e))

/-- The entry with a path. -/
def entryAt (p : Path) : IO.FS.DirEntry := ⟨".", p.text⟩

/-- What an entry is, if it is there. Links are not followed. -/
def typeOf (entry : IO.FS.DirEntry) : IO (Option IO.FS.FileType) := do
  try
    return some (← entry.path.symlinkMetadata).type
  catch _ => return none

/-- The regular files below a directory, as the steps that lead to them. Links are not followed. -/
partial def walk (directory : Path) (steps : List Name) : IO (List (List Name)) := do
  let mut found := []
  for entry in ← (try (entryAt directory).path.readDir catch _ => pure #[]) do
    let name := entry.fileName.toList
    match ← typeOf entry with
    | some .dir => found := found ++ (← walk (directory.child name) (steps ++ [name]))
    | some .file => found := found ++ [steps ++ [name]]
    | _ => pure ()
  return found

/-- The regular files below the directory that a path leads to. -/
def filesBelow (root : Path) : IO (List (List Name)) := do
  if root.chars = [] then return []
  match ← typeOf (entryAt root) with
  | some .file => return [[]]
  | some _ => walk root []
  | none => return []

/-- What a command can ask of the file system once the settings file was read. -/
def viewFor (settingsFile : Path × Except Fault (List UInt8)) (command : Command) : IO Files := do
  let files := Files.ofReads [settingsFile] fun _ => []
  let suffix :=
    match (Settings.load files Command.workingDirectory).value with
    | .ok s => s.suffix
    | .error _ => []
  let pair (p : Path) : List Path := [p, Document.coveragePathOf p suffix]
  match command with
  | .list file _ | .draw file _ | .watch file _ =>
    return .ofReads (settingsFile :: (← (pair file).mapM readPath)) fun _ => []
  | .states => return files
  | .summary root _ =>
    let below ← filesBelow root
    let reads ← (below.flatMap fun steps => pair (root.descend steps)).mapM readPath
    return .ofReads (settingsFile :: reads) fun _ => below

/-! ## Writing -/

/-- Write what a run gave, messages first. -/
def emit (stdout : List UInt8) (stderr : Text) : IO Unit := do
  IO.eprint (String.ofList stderr)
  let out ← IO.getStdout
  out.write ⟨stdout.toArray⟩
  out.flush

/-! ## Watching -/

/-- What a running watch knows. -/
structure Session where
  document : Path
  filter : Log.Filter
  loop : Watch.Loop
  overlay : Overlay Terminal
  /-- The files as they were seen last. -/
  seen : List (Path × Except Fault (List UInt8))

/-- Whether two readings of files differ. -/
def differ (a b : List (Path × Except Fault (List UInt8))) : Bool :=
  (a.map fun (p, r) => (p, r.toOption)) ≠ (b.map fun (p, r) => (p, r.toOption))

/-- Look at the files, and send and receive a signal if they changed. -/
def Session.look (s : Session) : IO (Bool × Session) := do
  let now ← s.seen.mapM fun (p, _) => readPath p
  if differ s.seen now then
    return (true, { s with seen := now, loop := (s.loop.run? [.send, .receive]).getD s.loop })
  else return (false, s)

/-- Show the document again. -/
def Session.reapply (s : Session) : IO Session := do
  let run := Watch.reapply s.overlay (.ofReads s.seen fun _ => []) s.document
  let (messages, overlay) := run.value
  emit overlay.renderer.surface.taken (s.filter.shown run.events ++ messages)
  let renderer := { overlay.renderer with surface := .empty }
  return { s with
    overlay := { overlay with renderer }
    loop := (s.loop.after? .finish).getD s.loop }

/-- Take the steps of the watch loop. -/
partial def Session.follow (s : Session) : IO Unit := do
  match s.loop.phase with
  | .waiting =>
    let (changed, s) ← s.look
    unless changed do IO.sleep 50
    s.follow
  | .gathering =>
    IO.sleep 100
    let (changed, s) ← s.look
    if changed then s.follow
    else ({ s with loop := (s.loop.after? .timeOut).getD s.loop } : Session).follow
  | .applying => (← s.reapply).follow
  | .done => return ()

/-- Run a watch: the first apply, and then one for every burst of changes. -/
def watch (files : Files) (verbose : Bool) (spec : Option Text) (document : Path) (plain : Bool) :
    IO UInt32 := do
  let begun := Command.beginWatch files document plain
  let (output, overlay?) := begun.value
  let ending := endingOf verbose spec ⟨output, begun.events⟩
  emit ending.stdout ending.stderr
  if let some overlay := overlay? then
    let (filter, _) := Log.Filter.parse (filterSpec verbose spec)
    let renderer := { overlay.renderer with surface := .empty }
    let overlay := { overlay with renderer }
    let seen := (Watch.watchedPaths document overlay.settings.suffix).map fun p => (p, files.read p)
    Session.follow ⟨document, filter, .start, overlay, seen⟩
  return UInt32.ofNat ending.code

end CoverageOverlay.Main

open CoverageOverlay CoverageOverlay.Main in
def main (arguments : List String) : IO UInt32 := do
  let spec := (← IO.getEnv "RUST_LOG").map String.toList
  let arguments := arguments.map String.toList
  match CommandLine.read arguments with
  | some (.run verbose command) =>
    let settingsFile ← readPath (Command.workingDirectory.child Settings.fileName)
    let files ← viewFor settingsFile command
    match command with
    | .watch document plain => watch files verbose spec document plain
    | _ =>
      let ending := CommandLine.execute files arguments spec
      emit ending.stdout ending.stderr
      return UInt32.ofNat ending.code
  | _ =>
    let ending := CommandLine.execute (.ofReads [] fun _ => []) arguments spec
    emit ending.stdout ending.stderr
    return UInt32.ofNat ending.code
