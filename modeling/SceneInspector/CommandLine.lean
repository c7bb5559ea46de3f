import SceneInspector.Report
import SceneInspector.Settings.Directory
import SceneInspector.Stream

namespace SceneInspector

inductive Command where
  | headless (directory : Option String)
  | summary (scene : String) (directory : Option String)
  | editor (scene : String) (element : ElementId) (directory : Option String)
  | prepare (directory : Option String)
deriving DecidableEq, Repr

namespace Command

structure Words where
  plain : List String := []
  directory : Option String := none

def optionName : List Char := "--config".toList

def afterEquals? (word : String) : Option String :=
  let start := optionName ++ ['=']
  if start.isPrefixOf word.toList then some (String.ofList (word.toList.drop start.length)) else none

def isOption (word : String) : Bool :=
  match word.toList with
  | '-' :: _ :: _ => true
  | _ => false

def Words.withDirectory (words : Words) (directory : String) : Option Words :=
  if words.directory.isSome ∨ directory = "" then none
  else some { words with directory := some directory }

def words? (takesDirectory : Bool) (words : Words) : List String → Option Words
  | [] => some words
  | word :: rest =>
    if word = "--" then some { words with plain := words.plain ++ rest }
    else if isOption word then
      if takesDirectory then
        match afterEquals? word with
        | some directory => (words.withDirectory directory).bind (words? takesDirectory · rest)
        | none =>
          if word.toList = optionName then
            match rest with
            | [] => none
            | directory :: rest =>
              if isOption directory then none
              else (words.withDirectory directory).bind (words? takesDirectory · rest)
          else none
      else none
    else words? takesDirectory { words with plain := words.plain ++ [word] } rest

-- The number of an element as a word: a sign may precede it, and minus zero is zero.
def elementId? (word : String) : Option ElementId :=
  let number := match word.toList with
    | '-' :: digits => (Text.natural? digits).filter (· = 0)
    | text => Text.unsigned? Text.maxUInt32 text
  number.map UInt32.ofNat

def ofArguments? : List String → Option Command
  | "headless" :: rest => do
    let words ← words? true {} rest
    let [] := words.plain | none
    pure (.headless words.directory)
  | "summary" :: rest => do
    let words ← words? true {} rest
    let [scene] := words.plain | none
    if scene = "" then none else pure (.summary scene words.directory)
  | "ged" :: rest => do
    let words ← words? true {} rest
    let [scene, element] := words.plain | none
    if scene = "" then none else pure (.editor scene (← elementId? element) words.directory)
  | "init" :: rest => do
    let words ← words? false {} rest
    match words.plain with
    | [] => pure (.prepare none)
    | [directory] => if directory = "" then none else pure (.prepare (some directory))
    | _ => none
  | _ => none

def usage : String :=
  "Usage: eveged headless [--config DIR]\n" ++
  "       eveged summary SCENE [--config DIR]\n" ++
  "       eveged ged SCENE ID [--config DIR]\n" ++
  "       eveged init [DIR]\n"

def root (directory : Option String) : Disk.Path := directory.elim {} Disk.Path.mk

def shown (working : String) (directory : Option String) : String := directory.getD working

def loaded (settings : Settings) (text : Except Disk.Failure String) : Except Fault State :=
  match text with
  | .error failure => .error (.system failure.text)
  | .ok text =>
    match Report.rootsOfText? text with
    | none => .error .malformedJson
    | some roots => Report.load settings roots

def summaryText (settings : Settings) (text : Except Disk.Failure String) : Except Fault String :=
  match loaded settings text with
  | .ok state => .ok (Report.summary state)
  | .error fault => .error fault

def editorText (settings : Settings) (text : Except Disk.Failure String) (id : ElementId) :
    Except Fault String :=
  match loaded settings text with
  | .ok state =>
    match (Report.editor state id).2 with
    | .ok text => .ok (text ++ "\n")
    | .error fault => .error fault
  | .error fault => .error fault

def preparedText (working : String) (directory : Option String) : String :=
  (Settings.directoryIn ⟨shown working directory⟩).text ++ "\n"

structure Outcome where
  code : Nat
  output : String
  disk : Disk

def finished (disk : Disk) (result : Except Fault String) : Outcome :=
  match result with
  | .ok output => ⟨0, output, disk⟩
  | .error _ => ⟨1, "", disk⟩

def headlessText (working : String) (directory : Option String) (disk : Disk)
    (lines : List String) : Except Fault String :=
  match Engine.ofSettings (Settings.load disk (root directory)) .open with
  | .ok engine =>
    let records := .ready (shown working directory) :: Stream.session engine lines
    .ok (String.join (records.map fun record => record.line 0 ++ "\n"))
  | .error fault => .error fault

def run (working : String) (disk : Disk) (lines : List String) : Command → Outcome
  | .headless directory =>
    -- a session starts also where the file cannot be made
    let disk := match Settings.prepare disk (root directory) with
      | .ok disk => disk
      | .error _ => disk
    finished disk (headlessText working directory disk lines)
  | .summary scene directory =>
    finished disk (summaryText (Settings.load disk (root directory)) (disk.read ⟨scene⟩))
  | .editor scene element directory =>
    finished disk
      (editorText (Settings.load disk (root directory)) (disk.read ⟨scene⟩) element)
  | .prepare directory =>
    match Settings.prepare disk (root directory) with
    | .ok disk => ⟨0, preparedText working directory, disk⟩
    | .error _ => ⟨1, "", disk⟩

def runArguments (working : String) (disk : Disk) (lines : List String) (arguments : List String) :
    Outcome :=
  match ofArguments? arguments with
  | some command => command.run working disk lines
  | none => ⟨2, "", disk⟩

end SceneInspector.Command
