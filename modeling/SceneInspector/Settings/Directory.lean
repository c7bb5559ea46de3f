import SceneInspector.Disk
import SceneInspector.Settings.File

namespace SceneInspector.Settings

def directoryName : String := ".eve"

def fileName : String := "config.toml"

def directoryIn (root : Disk.Path) : Disk.Path := root.join directoryName

def fileIn (root : Disk.Path) : Disk.Path := (directoryIn root).join fileName

def load (disk : Disk) (root : Disk.Path) : Settings :=
  match disk.read (fileIn root) with
  | .ok text => ofText text
  | .error _ => {}

def directoryFault (failure : Disk.Failure) : Fault :=
  .configuration ("Failed to create .eve dir: " ++ failure.text)

def fileFault (failure : Disk.Failure) : Fault :=
  .configuration ("Failed to write config.toml: " ++ failure.text)

def prepare (disk : Disk) (root : Disk.Path) : Except Fault Disk :=
  let made := if disk.exists? (directoryIn root) then .ok disk
    else disk.makeDirectories (directoryIn root)
  match made with
  | .error failure => .error (directoryFault failure)
  | .ok disk =>
    if disk.exists? (fileIn root) then .ok disk
    else match disk.write (fileIn root) standardText with
      | .ok disk => .ok disk
      | .error failure => .error (fileFault failure)

end SceneInspector.Settings
