import ServerKeeper.Path

namespace ServerKeeper.Toolchain

structure Environment where
  bindings : List (String × String)
  deriving DecidableEq, Repr

namespace Environment

def empty : Environment := ⟨[]⟩

/-- Module mode on, with all caches and outputs under a base directory. -/
def ofBaseDir (base : String) : Environment where
  bindings :=
    [("GO111MODULE", "on"),
     ("GOPATH", base),
     ("GOBIN", Path.join base "bin"),
     ("GOCACHE", Path.join base "go-build"),
     ("GOMODCACHE", Path.join (Path.join base "pkg") "mod")]

def setIn (key value : String) : List (String × String) → List (String × String)
  | [] => [(key, value)]
  | (k, v) :: rest => if k = key then (k, value) :: rest else (k, v) :: setIn key value rest

/-- Gives a variable a value: in its place if it is there, else at the end. -/
def set (env : Environment) (key value : String) : Environment :=
  ⟨setIn key value env.bindings⟩

def get? (env : Environment) (key : String) : Option String :=
  env.bindings.lookup key

end Environment

end ServerKeeper.Toolchain
