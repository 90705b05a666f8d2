import ToolGateway.Url.Authority

namespace ToolGateway.Url

-- A dot may be spelled in percent encoding.
def undotted : List Char → List Char
  | '%' :: '2' :: 'e' :: rest => '.' :: undotted rest
  | '%' :: '2' :: 'E' :: rest => '.' :: undotted rest
  | c :: rest => c :: undotted rest
  | [] => []

def isDrive (segment : List Char) : Bool :=
  match segment with
  | [letter, mark] => letter.isAlpha && (mark = ':' || mark = '|')
  | _ => false

-- The path without its last segment; no path leaves a drive.
def leave (names : List String) : List String :=
  if names.getLast?.any fun name => isDrive name.toList then names else names.dropLast

-- Two dots leave the segment before them, one dot stays; either at the end leaves an empty segment.
-- A file's path that starts with a drive has the colon.
def resolve (onDrives : Bool) (before : List String) : List (List Char) → List String
  | [] => before
  | segment :: rest =>
    let plain := undotted segment
    let ending := if rest.isEmpty then [""] else []
    if plain = ['.', '.'] then resolve onDrives (leave before ++ ending) rest
    else if plain = ['.'] then resolve onDrives (before ++ ending) rest
    else if onDrives && before.isEmpty && isDrive segment then
      resolve onDrives [String.ofList (segment.take 1 ++ [':'])] rest
    else resolve onDrives (before ++ [encode notInPath segment]) rest

def segments (fixed : Bool) (s : List Char) : List (List Char) :=
  Text.fields '/' (s.map fun c => if isSlash fixed c then '/' else c)

def dropSlash (fixed : Bool) (s : List Char) : List Char :=
  match s with
  | c :: rest => if isSlash fixed c then rest else s
  | [] => []

def pathOf (fixed : Bool) (s : List Char) : Path :=
  if s.isEmpty && !fixed then .segments []
  else .segments (resolve false [] (segments fixed (dropSlash fixed s)))

-- A file's path does not start with empty segments.
def filePath (names : List String) : Path :=
  match names.dropWhile (· = "") with
  | [] => .segments [""]
  | names => .segments names

end ToolGateway.Url
