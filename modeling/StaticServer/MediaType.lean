import StaticServer.PathText

/-!
# Media types

The media type of a file is judged by the extension of its path, in any case; files of unknown kind are plain text.
-/

namespace StaticServer

namespace MediaType

/-- The type of files whose extension tells nothing. -/
def unknown : String := "text/plain"

/-- The types of the known extensions. -/
def ofKnown : List (String × String) :=
  [("html", "text/html"), ("htm", "text/html"), ("css", "text/css"), ("js", "application/javascript"),
    ("json", "application/json"), ("gif", "image/gif"), ("jpg", "image/jpeg"), ("jpeg", "image/jpeg"),
    ("png", "image/png"), ("svg", "image/svg+xml"), ("ico", "image/x-icon"), ("pdf", "application/pdf"),
    ("wasm", "application/wasm")]

/-- The media type of a path. -/
def ofPath (path : String) : String :=
  match PathText.extension? path.toList with
  | none => unknown
  | some ext => (ofKnown.lookup (String.ofList (ext.map Char.toLower))).getD unknown

end MediaType

end StaticServer
