import GatedRollout.Config.Source
import GatedRollout.Rehearsal.DurationText
import GatedRollout.Rehearsal.Yaml

/-!
# Configurations of rehearsals

A rehearsal lists its files with their paths, and its configurations are written as YAML mappings
without anchors, tags and block scalars. That makes a source of configurations of every tree.

A scalar is taken as a text whatever it looks like, and only an optional value takes an unquoted
null for its absence. A section that is left empty has all its defaults. A key that is not known is
ignored, and one that is known stands only once.
-/

namespace GatedRollout

namespace ConfigDocument

open Yaml (Node)

/-! ## Sections -/

abbrev Section := List (String × Node)

def section? (known : List String) : Node → Option Section
  | .mapping pairs => do
      let entries ← pairs.mapM fun (key, value) => key.text?.map fun key => (key, value)
      let named := (entries.map (·.1)).filter known.contains
      guard (named.length == named.eraseDups.length)
      return entries
  | .scalar "" false => some []
  | _ => none

def Section.need {α : Type} (s : Section) (key : String) (read : Node → Option α) : Option α :=
  (s.lookup key).bind read

def Section.find {α : Type} (s : Section) (key : String) (read : Node → Option α) :
    Option (Option α) :=
  match s.lookup key with
  | none => some none
  | some node => (read node).map some

/-! ## Entries -/

def optional? {α : Type} (read : Node → Option α) (node : Node) : Option (Option α) :=
  if node.isNull then some none else (read node).map some

def launchType? (node : Node) : Option LaunchType :=
  node.text?.bind fun text => LaunchType.all.find? (·.name == text)

def duration? (node : Node) : Option Duration := node.text?.bind DurationText.parse?

def timeouts? (node : Node) : Option Timeouts.Draft := do
  let s ← section? ("default" :: Phase.all.map Phase.key) node
  let standard ← s.find "default" duration?
  let limit? (phase : Phase) := s.find phase.key duration?
  guard (Phase.all.all fun phase => (limit? phase).isSome)
  return { standard, limits := fun phase => (limit? phase).join }

def canary? (node : Node) : Option CanaryConfig.Draft := do
  let s ← section? ["instance_arn", "launch_type", "task_group", "cleanup_timeout"] node
  let instanceArn ← s.find "instance_arn" (optional? fun n => n.text?.map Arn.mk)
  let launchType ← s.find "launch_type" (optional? launchType?)
  let taskGroup ← s.find "task_group" Node.text?
  let cleanupTimeout ← s.find "cleanup_timeout" duration?
  return { instanceArn := instanceArn.join, launchType := launchType.join, taskGroup,
           cleanupTimeout }

def config? (node : Node) : Option Config.Draft := do
  let s ← section? ["cluster", "service", "canary", "timeouts"] node
  let cluster ← s.need "cluster" Node.text?
  let service ← s.need "service" Node.text?
  let canary ← s.find "canary" canary?
  let timeouts ← s.find "timeouts" timeouts?
  return { cluster, service, canary, timeouts }

def ofText? (text : String) : Option Config.Draft := (Yaml.document? text).bind config?

end ConfigDocument

/-! ## Trees of files -/

/-- The files and directories of a tree. A path names something if it is listed, or if something
listed lies below it. -/
structure FileTree where
  entries : List (String × FileNode)

namespace FileTree

def join (directory name : String) : String := ConfigSource.join directory name

def get? (tree : FileTree) (path : String) : Option FileNode :=
  match tree.entries.lookup path with
  | some node => some node
  | none =>
      if tree.entries.any fun (other, _) => (path ++ "/").toList.isPrefixOf other.toList then
        some .directory
      else none

def source (tree : FileTree) : ConfigSource := ⟨tree.get?, ConfigDocument.ofText?⟩

end FileTree

namespace Config

def ofYaml (text : String) : Except ConfigError Config := (FileTree.source ⟨[]⟩).ofText text

def load (tree : FileTree) (path : String) : Except ConfigError Config := tree.source.load path

def discover (tree : FileTree) (directory : String) : Except ConfigError Config :=
  tree.source.discover directory

end Config

end GatedRollout
