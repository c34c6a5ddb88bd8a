namespace ServerKeeper.Host.ShownPath

def isPrintable (c : Char) : Bool := 0x20 ≤ c.toNat && c.toNat < 0x7f

def escaped (c : Char) : List Char :=
  let letters := [('\x07', 'a'), ('\x08', 'b'), ('\t', 't'), ('\n', 'n'), ('\x0b', 'v'),
    ('\x0c', 'f'), ('\r', 'r')]
  match letters.lookup c with
  | some letter => ['\\', letter]
  | none =>
    let digit (n : Nat) : Char := Char.ofNat (48 + n % 8)
    ['\\', digit (c.toNat / 64), digit (c.toNat / 8), digit c.toNat]

def body : Bool → List Char → List Char
  | _, [] => []
  | inEscape, c :: cs =>
    if !isPrintable c then
      (if inEscape then [] else ['\'', '$', '\'']) ++ escaped c ++ body true cs
    else
      (if inEscape then ['\'', '\''] else []) ++
        (if c = '\'' then ['\'', '\\', '\'', '\''] else [c]) ++ body false cs

def isCommon (c : Char) : Bool := c.isAlphanum || "%+,-./:]_@ '".contains c

def quoted (path : String) : String :=
  if path.contains '\'' && path.all isCommon then "\"" ++ path ++ "\""
  else "'" ++ String.ofList (body false path.toList) ++ "'"

def literal (path : String) : String :=
  let shown (c : Char) : List Char :=
    if !isPrintable c then escaped c else if c = '\'' || c = '\\' then ['\\', c] else [c]
  "'" ++ String.ofList (path.toList.flatMap shown) ++ "'"

def needsQuotes (path : String) : Bool :=
  path.isEmpty || path.any (fun c => !isPrintable c || " !\"$&'()*;<=>?[\\^`|".contains c) ||
    path.startsWith "#" || path.startsWith "~" || path = "\x7b" || path = "\x7d"

def plain (path : String) : String :=
  if needsQuotes path then quoted path else path

end ServerKeeper.Host.ShownPath
