import ServerKeeper.Release.Version

namespace ServerKeeper

structure Release where
  tag : String
  name : Option String
  deriving DecidableEq, Repr

namespace Release

/-- What the tags of the server begin with. -/
def tagStart : String := "gopls/v"

def versionText? (r : Release) : Option String :=
  (Text.after? tagStart.toList r.tag.toList).map String.ofList

/-- The version of the first tag of the server. Where that one cannot be read there is none: an
older tag does not stand in for it. -/
def latest? (listing : List Release) : Option Version :=
  (listing.findSome? versionText?).bind Version.parse?

end Release

end ServerKeeper
