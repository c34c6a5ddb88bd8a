import ServerKeeper.Text.Pattern

namespace ServerKeeper.Template

/-- A piece of a text: a character that stands for itself, or a reference. -/
inductive Piece
  | literal (c : Char)
  | reference (name : List Char) (braced : Bool)
  deriving DecidableEq, Repr

def Piece.source : Piece → List Char
  | literal c => [c]
  | reference name true => '$' :: '\x7b' :: name ++ ['\x7d']
  | reference name false => '$' :: name

/-- The pattern `\$\{(\w+)\}|\$(\w+)`. -/
def pattern : Text.Pattern :=
  .either
    (.seq (.char '$') <| .seq (.char '\x7b') <| .seq (.group (.many Text.isWord)) (.char '\x7d'))
    (.seq (.char '$') (.group (.many Text.isWord)))

def reference? : List Char → Option (Piece × List Char)
  | '$' :: '\x7b' :: rest =>
    if (rest.takeWhile Text.isWord).isEmpty then none
    else
      match rest.dropWhile Text.isWord with
      | '\x7d' :: rest' => some (.reference (rest.takeWhile Text.isWord) true, rest')
      | _ => none
  | '$' :: rest =>
    if (rest.takeWhile Text.isWord).isEmpty then none
    else some (.reference (rest.takeWhile Text.isWord) false, rest.dropWhile Text.isWord)
  | _ => none

theorem length_dropWhile_le (p : Char → Bool) (cs : List Char) :
    (cs.dropWhile p).length ≤ cs.length :=
  (List.dropWhile_suffix p).length_le

theorem reference?_length {cs rest : List Char} {piece : Piece}
    (h : reference? cs = some (piece, rest)) : rest.length < cs.length := by
  unfold reference? at h
  split at h
  · rename_i tail
    split at h
    · cases h
    · split at h
      · rename_i rest' found
        have := length_dropWhile_le Text.isWord tail
        simp only [Option.some.injEq, Prod.mk.injEq] at h
        obtain ⟨-, rfl⟩ := h
        rw [found] at this
        simp only [List.length_cons] at this ⊢
        omega
      · cases h
  · rename_i tail _
    split at h
    · cases h
    · have := length_dropWhile_le Text.isWord tail
      simp only [Option.some.injEq, Prod.mk.injEq] at h
      obtain ⟨-, rfl⟩ := h
      simp only [List.length_cons]
      omega
  · cases h

def pieces (cs : List Char) : List Piece :=
  match _found : reference? cs with
  | some (piece, rest) => piece :: pieces rest
  | none =>
    match cs with
    | [] => []
    | c :: rest => .literal c :: pieces rest
termination_by cs.length
decreasing_by
  · exact reference?_length _found
  · simp

def lookup? (bindings : List (String × String)) (name : List Char) : Option String :=
  bindings.lookup (String.ofList name)

def Piece.expand (bindings : List (String × String)) : Piece → List Char
  | literal c => [c]
  | reference name braced =>
    match lookup? bindings name with
    | some text => text.toList
    | none => (reference name braced).source

def expand (bindings : List (String × String)) (input : String) : String :=
  String.ofList ((pieces input.toList).flatMap (Piece.expand bindings))

def fillTagChars (text : List Char) : List Char → List Char
  | '\x7b' :: 't' :: 'a' :: 'g' :: '\x7d' :: rest => text ++ fillTagChars text rest
  | c :: rest => c :: fillTagChars text rest
  | [] => []

def fillTag (template text : String) : String :=
  String.ofList (fillTagChars text.toList template.toList)

end ServerKeeper.Template
