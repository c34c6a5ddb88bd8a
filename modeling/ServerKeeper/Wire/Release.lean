import ServerKeeper.Json.Record
import ServerKeeper.Json.Printer
import ServerKeeper.Release.Listing

namespace ServerKeeper.Release

structure Given where
  tag : Option String
  name : Option (Option String)

def record : Json.Record Given Release where
  title := "struct Release"
  fields :=
    [.of "tag_name" Given.tag (fun g a => { g with tag := some a }) Json.readString false,
     .of "name" Given.name (fun g a => { g with name := some a })
      (Json.readOption Json.readString) true]
  start := ⟨none, none⟩
  finish := fun g =>
    match g.tag with
    | some tag => .ok ⟨tag, g.name.getD none⟩
    | none => .error "tag_name"

def fromJson? (text : String) : Except Json.Error Release :=
  Json.readText (record.read Json.maxDepth) text

def listingFromJson? (text : String) : Except Json.Error (List Release) :=
  Json.readText (Json.readList record.read Json.maxDepth) text

def toJson (r : Release) : Json.Value :=
  .object
    [("tag_name", .string r.tag),
     ("name", match r.name with
      | some name => .string name
      | none => .null)]

end ServerKeeper.Release
