import StyleTypings.Disk.Build
import StyleTypings.Run

namespace StyleTypings.Main

open Text (Bytes)

/-- How deep the tree below the working directory is read. -/
def deepest : Nat := 64

def readEntries : (depth : Nat) → List IO.FS.DirEntry → IO (List (Disk.Name × Disk.Node))
  | 0, _ => return []
  | depth + 1, found => found.mapM fun entry ↦ do
    let name := Text.encode entry.fileName
    if ← entry.path.isDir then
      return (name, .dir (← readEntries depth (← entry.path.readDir).toList))
    else
      let content := (← IO.FS.readBinFile entry.path).toList
      return (name, .file content (Tool.interpreter.isPrefixOf content))

def readDisk : IO Disk := do
  let cwd ← IO.currentDir
  let entries ← readEntries deepest (← cwd.readDir).toList
  let path := Text.encode cwd.toString
  let d := Disk.makeDirs {} path
  let here := (Disk.pieces path).filter (· != [])
  return { d with top := d.top.put here (.dir entries), here }

def writeBack (before after : Disk) : IO Unit := do
  let old := before.filesBelow before.here
  for (path, content) in after.filesBelow after.here do
    if !old.contains (path, content) then
      IO.FS.writeBinFile (Text.lossy path) ⟨content.toArray⟩

def putOut (filter : Log.Filter) (w : World) : IO Unit := do
  for line in Run.logLines filter w do IO.eprintln line
  IO.print w.output
  IO.eprint w.errors

partial def watch (filter : Log.Filter) (done : Run.Done) (before : Disk) : IO Run.Failed := do
  IO.sleep 1000
  let now ← readDisk
  let old := before.filesBelow before.here
  let changed := (now.filesBelow now.here).filter fun file ↦ !old.contains file
  let dir := Disk.pathOf now.here
  let events := changed.map fun (path, _) ↦ ⟨.modify, [Disk.join dir path]⟩
  let (result, w) := (done.receive events).run { disk := now }
  writeBack now w.disk
  putOut filter w
  match result with
  | .error f => return f
  | .ok () => watch filter done w.disk

end StyleTypings.Main

open StyleTypings StyleTypings.Main in
def main (words : List String) : IO UInt32 := do
  let start ← IO.monoMsNow
  let disk ← readDisk
  let elapsed := (← IO.monoMsNow) - start
  let given ← IO.getEnv "CSS_TYPINGS_LOG"
  let searchPath := ((← IO.getEnv "PATH").getD "").splitOn ":"
  let filter := Run.Ending.filter words given
  let (ending, w) :=
    (Run.program words elapsed).run { disk, searchPath := searchPath.map Text.encode }
  writeBack disk w.disk
  putOut filter w
  if let .succeeded done := ending then
    if done.watching then
      let failed ← watch filter done w.disk
      IO.eprint failed.report
      return failed.exitCode.toUInt32
  return ending.code.toUInt32
