import ServerKeeper.FileTree.Access

namespace ServerKeeper.FileTree

/-- Finds an executable file. A program of more than one path component is taken as it is; otherwise
the first directory that has it wins. -/
def findProgram (t : FileTree) (program : String) (searchPath : Option String) : Option String :=
  if 1 < (Path.components program).length then
    if t.isExecutable program then some program else none
  else
    searchPath.bind fun text =>
      ((Path.searchList text).map (Path.join · program)).find? t.isExecutable

end ServerKeeper.FileTree
