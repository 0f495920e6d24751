/-!
# Where a log line comes from

A log line names the statement that wrote it by package, file and line.
-/

namespace CallLight.Log

/-- The last element of the package path in the full name of a function. -/
def packageName (function : String) : String :=
  let cs := (function.toList.reverse.takeWhile (· != '/')).reverse
  String.ofList (cs.takeWhile (· != '.'))

/-- The last element of a path. Slashes at the end do not count; the empty path is the current
directory. -/
def baseName (path : String) : String :=
  let cs := path.toList.reverse
  if cs.isEmpty then "."
  else
    let cs := cs.dropWhile (· == '/')
    if cs.isEmpty then "/" else String.ofList ((cs.takeWhile (· != '/')).reverse)

/-- Text in a style of the terminal, which `off` ends. -/
def styled (on off : String) (s : String) : String :=
  "\x1b[" ++ on ++ "m" ++ s ++ "\x1b[" ++ off ++ "m"

/-- A file and a line, the file in bold and the line in red if colors are wanted. -/
def place (color : Bool) (file line : String) : String :=
  if color then styled "1" "22" file ++ ":" ++ styled "91" "0" line else file ++ ":" ++ line

/-- The place of a statement. -/
def caller (color : Bool) (package path : String) (line : Int) : String :=
  let file := if package == "" then baseName path else package ++ "/" ++ baseName path
  place color file (toString line)

end CallLight.Log
