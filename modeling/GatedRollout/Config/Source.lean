import GatedRollout.Config.Basic

/-!
# Where a configuration comes from

A configuration is spelled by a text, and the text stands in a file. How a text is parsed and what
files there are is left open: a `ConfigSource` says what stands at a path and which fields a text
sets. What is made of that is settled here. A field that is left out has its default, the name of
the service is judged while the text is read, and a directory is searched for a file under three
names, of which the first that exists is the one that counts, even if it cannot be read or is
malformed and a later one is fine.
-/

namespace GatedRollout

/-! ## Drafts -/

structure Timeouts.Draft where
  standard : Option Duration := none
  limits : Phase → Option Duration := fun _ => none

/-- A limit that is left out is unset, and the default that is left out is that of all waits. -/
def Timeouts.Draft.complete (draft : Timeouts.Draft) : Timeouts :=
  Phase.all.foldl (fun timeouts phase => timeouts.withPhase phase ((draft.limits phase).getD .zero))
    (Timeouts.uniform (draft.standard.getD fallbackTimeout))

structure CanaryConfig.Draft where
  instanceArn : Option ContainerInstanceArn := none
  launchType : Option LaunchType := none
  taskGroup : Option String := none
  cleanupTimeout : Option Duration := none

def CanaryConfig.Draft.complete (draft : CanaryConfig.Draft) : CanaryConfig :=
  let unset : CanaryConfig := {}
  { instanceArn := draft.instanceArn
    launchType := draft.launchType
    taskGroup := draft.taskGroup.getD unset.taskGroup
    cleanupTimeout := draft.cleanupTimeout.getD unset.cleanupTimeout }

/-- The fields that a text sets, the name of the service as it is written. -/
structure Config.Draft where
  cluster : String
  service : String
  canary : Option CanaryConfig.Draft := none
  timeouts : Option Timeouts.Draft := none

/-- The configuration, usable or not, if the name of the service is lawful. -/
def Config.Draft.complete? (draft : Config.Draft) : Option Config := do
  let service ← (ServiceName.parse draft.service).toOption
  return {
    cluster := draft.cluster
    service
    canary := (draft.canary.map CanaryConfig.Draft.complete).getD {}
    timeouts := (draft.timeouts.map Timeouts.Draft.complete).getD {} }

/-! ## Files -/

inductive FileNode
  | file (content : ByteArray)
  | directory
  /-- A file that may not be opened. -/
  | locked

structure ConfigSource where
  /-- What stands at a path whose metadata can be read. Any other path is missing, be it that it
  names nothing, that it lies behind a directory that may not be searched, or that its links lead
  in a circle. -/
  node? : String → Option FileNode
  /-- The fields that a text sets, if it is a document of this kind. -/
  draft? : String → Option Config.Draft

namespace ConfigSource

variable (source : ConfigSource)

def ofText (text : String) : Except ConfigError Config :=
  match (source.draft? text).bind Config.Draft.complete? with
  | none => .error .malformed
  | some config => config.validate

/-- Load the configuration file at a path. It has to be a file of UTF-8 text. -/
def load (path : String) : Except ConfigError Config :=
  match source.node? path with
  | some (.file content) =>
      match String.fromUTF8? content with
      | some text => source.ofText text
      | none => .error .unreadable
  | _ => .error .unreadable

/-- The path of something in a directory. The present directory has the empty path. -/
def join (directory name : String) : String :=
  if directory.isEmpty || directory.toList.getLast? == some '/' then directory ++ name
  else directory ++ "/" ++ name

def fileNames : List String := ["canarist.yml", "canarist.yaml", ".canarist/config.yml"]

/-- Load the first configuration file that exists in a directory. -/
def discover (directory : String) : Except ConfigError Config :=
  match (fileNames.map (join directory)).find? fun path => (source.node? path).isSome with
  | some path => source.load path
  | none => .error (.notFound directory)

end ConfigSource

end GatedRollout
