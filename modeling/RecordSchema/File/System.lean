/-
What loading asks of a file system: reading a file, and listing the files of a
directory. Either may fail, with the cause in words.
-/
namespace RecordSchema

structure FileSystem where
  read : String → Except String String
  list : String → Except String (List String)

namespace FileSystem

/-- The files of a list of paths and texts. A path without a text is listed but can not be read, and a
directory has the paths that start with its name and a slash, at any depth and in the order given. -/
def ofFiles (files : List (String × Option String)) : FileSystem where
  read path :=
    match files.find? (·.1 == path) with
    | some (_, some text) => .ok text
    | _ => .error ("can not read " ++ path)
  list dir :=
    let found := (files.map (·.1)).filter fun path => (dir ++ "/").toList.isPrefixOf path.toList
    if found.isEmpty then .error ("no directory " ++ dir) else .ok found

end FileSystem

end RecordSchema
