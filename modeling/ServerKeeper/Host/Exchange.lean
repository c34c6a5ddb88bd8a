import ServerKeeper.FileTree.Access
import ServerKeeper.Host.Disk
import ServerKeeper.Text.Lossy

namespace ServerKeeper.Host.Disk

def descend (d : Disk) : Nat → List String → Option Nat
  | here, [] => some here
  | here, name :: rest => (d.find? here name).bind fun n => descend d n rest

def install (now : Moment) (d : Disk) (entry : Location × Entry) : Disk :=
  let names := entry.1.map Text.encode
  match d.descend root names.dropLast, names.getLast? with
  | some above, some name =>
    let (content, mode) :=
      match entry.2 with
      | .file bytes mode => (Content.file bytes, mode)
      | .directory mode => (.directory above [], mode)
      | .link target => (.link (Text.encode target), 0o777)
    (d.add now above name content mode).1
  | _, _ => d

def devices : List (String × Content × Nat) :=
  [("null", .device .null, 0o666), ("zero", .device .zero, 0o666), ("full", .device .full, 0o666),
   ("random", .device .random, 0o666), ("urandom", .device .random, 0o666),
   ("tty", .device .terminal, 0o666), ("stdin", .descriptor 0, 0o777),
   ("stdout", .descriptor 1, 0o777), ("stderr", .descriptor 2, 0o777)]

def equip (now : Moment) (d : Disk) : Disk :=
  match d.find? root "dev" with
  | none => d
  | some dev =>
    let add (d : Disk) (above : Nat) (name : String) (content : Content) (mode : Nat) : Disk :=
      if (d.find? above name).isSome then d else (d.add now above name content mode).1
    let d := devices.foldl (fun d (name, content, mode) => add d dev name content mode) d
    let d := add d dev "fd" (.directory dev []) 0o555
    match d.find? dev "fd" with
    | none => d
    | some fds =>
      (List.range 16).foldl (fun d n => add d fds (toString n) (.descriptor n) 0o700) d

def ofTree (now : Moment) (t : FileTree) : Disk × Nat :=
  let sorted := t.entries.reverse.mergeSort fun p q => p.1.length ≤ q.1.length
  let d := equip now (sorted.foldl (install now) empty)
  (d, (d.descend root (t.current.map Text.encode)).getD root)

def entriesBelow (d : Disk) : Nat → Location → Nat → List (Location × Entry)
  | 0, _, _ => []
  | fuel + 1, l, n =>
    (d.names n).flatMap fun (name, m) =>
      let l := l ++ [Text.decode name]
      let node := d.node m
      match node.content with
      | .file bytes => [(l, .file bytes node.mode)]
      | .directory .. => (l, .directory node.mode) :: entriesBelow d fuel l m
      | .link target => [(l, .link (Text.decode target))]
      | .device _ | .queue | .descriptor _ => []

def toTree (d : Disk) (current : Location) : FileTree where
  entries := ((d.entriesBelow (d.nodes.size + 1) [] root).filter (·.1 ≠ ["dev", "fd"])).reverse
  current := current

end ServerKeeper.Host.Disk
