import ServerKeeper.FileTree.Fault
import ServerKeeper.Path

namespace ServerKeeper.Host

abbrev Moment := Int

inductive Device
  | null
  | zero
  | full
  | random
  | terminal
  deriving DecidableEq, Repr

inductive Content
  | file (bytes : ByteArray)
  /-- The directory above, and the nodes that the names stand for, the oldest name first. -/
  | directory (above : Nat) (names : List (String × Nat))
  | link (target : String)
  | device (d : Device)
  | queue
  | descriptor (n : Nat)

namespace Content

def isDirectory : Content → Bool
  | directory .. => true
  | _ => false

def isFile : Content → Bool
  | file _ => true
  | _ => false

def isLink : Content → Bool
  | link _ => true
  | _ => false

def size : Content → Nat
  | file bytes => bytes.size
  | directory .. => 4096
  | link target => target.length
  | device _ | queue | descriptor _ => 0

end Content

/-- A node: what it holds, its permissions, how many names it has, and when it was read, when its
content changed, and when it changed at all. -/
structure Node where
  content : Content
  mode : Nat
  owner : Nat
  group : Nat
  links : Nat
  accessed : Moment
  modified : Moment
  changed : Moment

instance : Inhabited Node := ⟨⟨.queue, 0, 0, 0, 0, 0, 0, 0⟩⟩

structure Disk where
  nodes : Array Node

namespace Disk

def root : Nat := 0

def node (d : Disk) (n : Nat) : Node := d.nodes.getD n default

def content (d : Disk) (n : Nat) : Content := (d.node n).content

def update (d : Disk) (n : Nat) (f : Node → Node) : Disk :=
  ⟨d.nodes.modify n f⟩

def names (d : Disk) (n : Nat) : List (String × Nat) :=
  match d.content n with
  | .directory _ names => names
  | _ => []

def above (d : Disk) (n : Nat) : Nat :=
  match d.content n with
  | .directory above _ => above
  | _ => root

def find? (d : Disk) (directory : Nat) (name : String) : Option Nat :=
  (d.names directory).lookup name

def rename (d : Disk) (now : Moment) (directory : Nat)
    (f : List (String × Nat) → List (String × Nat)) : Disk :=
  d.update directory fun node =>
    match node.content with
    | .directory above names =>
      { node with content := .directory above (f names), modified := now, changed := now }
    | _ => node

def enter (d : Disk) (now : Moment) (directory : Nat) (name : String) (n : Nat) : Disk :=
  let d := d.rename now directory (· ++ [(name, n)])
  let d := d.update n fun node => { node with links := node.links + 1, changed := now }
  if (d.content n).isDirectory then
    d.update directory fun node => { node with links := node.links + 1 }
  else d

def groupMark : Nat := 0o2000

def add (d : Disk) (now : Moment) (directory : Nat) (name : String) (content : Content)
    (mode : Nat) : Disk × Nat :=
  let n := d.nodes.size
  let links := if content.isDirectory then 1 else 0
  let above := d.node directory
  let inherits := above.mode &&& groupMark ≠ 0
  let mode := if inherits && content.isDirectory then mode ||| groupMark else mode
  let group := if inherits then above.group else 0
  let d : Disk := ⟨d.nodes.push ⟨content, mode, 0, group, links, now, now, now⟩⟩
  (d.enter now directory name n, n)

def leave (d : Disk) (now : Moment) (directory : Nat) (name : String) : Disk :=
  match d.find? directory name with
  | none => d
  | some n =>
    let d := d.rename now directory (·.filter (·.1 != name))
    let d := d.update n fun node => { node with links := node.links - 1, changed := now }
    if (d.content n).isDirectory then
      let d := d.update n fun node => { node with links := 0 }
      d.update directory fun node => { node with links := node.links - 1 }
    else d

def setBytes (d : Disk) (now : Moment) (n : Nat) (bytes : ByteArray) : Disk :=
  d.update n fun node => { node with content := .file bytes, modified := now, changed := now }

def setMode (d : Disk) (now : Moment) (n mode : Nat) : Disk :=
  d.update n fun node => { node with mode, changed := now }

/-- Gives a node another owner or another group. What a file lends to those who start it is lost. -/
def setOwner (d : Disk) (now : Moment) (n : Nat) (owner group : Option Nat) : Disk :=
  d.update n fun node =>
    let lent := if node.mode &&& 0o010 ≠ 0 then 0o6000 else 0o4000
    let mode := if node.content.isDirectory then node.mode else node.mode &&& (0o7777 ^^^ lent)
    { node with
      mode
      owner := owner.getD node.owner
      group := group.getD node.group
      changed := now }

def empty : Disk := ⟨#[⟨.directory root [], 0o755, 0, 0, 2, 0, 0, 0⟩]⟩

end Disk

end ServerKeeper.Host
