import AppScaffold.Host.Path
import AppScaffold.Web.FileType.Application
import AppScaffold.Web.FileType.Media
import AppScaffold.Web.FileType.Text
import AppScaffold.Web.FileType.Vendor

/-!
# Media types of files

The media type that a file has by the ending of its name. The case of letters does not count, and
files with unknown endings are mere bytes.
-/

set_option autoImplicit false

namespace AppScaffold.Web

/-- The letters beyond ASCII that are letters of ASCII when case does not count. -/
def foldings : List (Char × List Char) := [
  ('ß', ['s', 's']), ('ſ', ['s']), ('ẞ', ['s', 's']), ('\u212a', ['k']), ('\ufb00', ['f', 'f']),
  ('\ufb01', ['f', 'i']), ('\ufb02', ['f', 'l']), ('\ufb03', ['f', 'f', 'i']),
  ('\ufb04', ['f', 'f', 'l']), ('\ufb05', ['s', 't']), ('\ufb06', ['s', 't'])]

def caseFolded (s : String) : String :=
  .ofList (s.toList.flatMap fun c => (foldings.lookup c).getD [c.toLower])

def fileTypes : List FileTypeTable :=
  [textTypes, imageTypes, soundAndFilmTypes, otherMediaTypes, applicationTypes,
    privateApplicationTypes, vendorTypesLow, vendorTypesHigh]

def unknownFileType : String := "application/octet-stream"

def fileType (path : String) : String :=
  match Host.Path.extension? path with
  | some ending => (fileTypes.findSome? (·.typeOf? (caseFolded ending))).getD unknownFileType
  | none => unknownFileType

end AppScaffold.Web
