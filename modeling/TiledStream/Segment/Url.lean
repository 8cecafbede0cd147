import TiledStream.Text.Search

/-! Addresses of segments, relative to the address of their manifest. -/

namespace TiledStream.Url

def directory (url : List Char) : List Char := (url.reverse.dropWhile (· != '/')).reverse

def isAbsolute (path : List Char) : Bool := Text.contains "://".toList path

/-- A relative path takes the place of what follows the manifest's last slash. -/
def resolve (manifestUrl path : String) : String :=
  if isAbsolute path.toList then path
  else String.ofList (directory manifestUrl.toList ++ path.toList)

end TiledStream.Url
