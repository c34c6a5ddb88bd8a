namespace ServerKeeper.Host

abbrev Table (κ α : Type) := List (κ × α)

namespace Table

variable {κ α : Type} [BEq κ]

def put : Table κ α → κ → α → Table κ α
  | [], key, a => [(key, a)]
  | (k, b) :: rest, key, a => if k == key then (key, a) :: rest else (k, b) :: put rest key a

def drop (t : Table κ α) (key : κ) : Table κ α := t.filter fun p => !(p.1 == key)

def change (t : Table κ α) (key : κ) (f : α → α) : Table κ α :=
  t.map fun (k, a) => (k, if k == key then f a else a)

end Table

end ServerKeeper.Host
