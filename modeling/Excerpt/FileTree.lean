import Excerpt.Source

/-! Files and directories held in memory, and how a path is followed among them. -/
namespace Excerpt

inductive FileTree.Entry where
  | file (content : Bytes)
  | directory
  deriving Repr, DecidableEq

/-- Entries by the components of their absolute paths. Every directory on the way to an entry exists
as well. -/
structure FileTree where
  entries : List (List Bytes × FileTree.Entry)
  deriving Repr

namespace FileTree

/-- What is at a place without dots. -/
def entry? (tree : FileTree) (place : List Bytes) : Option Entry :=
  match List.lookup place tree.entries with
  | some entry => some entry
  | none =>
    if place.isEmpty || tree.entries.any (fun entry => place.isPrefixOf entry.1) then
      some .directory
    else none

/-- Follows the parts of a path from a place, both the nearest first. No part, not even an empty
one, leads on from a file. -/
def follow (tree : FileTree) : (place : List Bytes) → List Bytes → Except ReadFault (List Bytes)
  | place, [] => .ok place
  | place, part :: parts =>
    match tree.entry? place.reverse with
    | none => .error .missing
    | some (.file _) => .error .notDirectory
    | some .directory =>
      if part.isEmpty || part == [LocalPath.dot] then tree.follow place parts
      else if part == [LocalPath.dot, LocalPath.dot] then tree.follow (place.drop 1) parts
      else if LocalPath.nameLimit < part.length then .error .nameTooLong
      else
        match tree.entry? (part :: place).reverse with
        | none => .error .missing
        | some _ => tree.follow (part :: place) parts

/-- The files of a tree, as seen from a working directory. -/
def files (tree : FileTree) (workDir : Bytes) : Files := fun path =>
  if path.contains 0 then .error .zeroOctet
  else if path.isEmpty then .error .missing
  else if LocalPath.pathLimit < path.length then .error .nameTooLong
  else do
    let start := if LocalPath.isAbsolute path then [] else (LocalPath.components workDir).reverse
    let place ← tree.follow start (path.splitOn LocalPath.slash)
    match tree.entry? place.reverse with
    | some (.file content) => .ok content
    | some .directory => .error .isDirectory
    | none => .error .missing

/-- The tree of a working directory that holds the given entries, by relative path. -/
def ofEntries (workDir : Bytes) (entries : List (Bytes × Entry)) : FileTree :=
  ⟨(LocalPath.components workDir, .directory) ::
    entries.map fun (path, entry) => (LocalPath.absolute workDir path, entry)⟩

end FileTree

end Excerpt
