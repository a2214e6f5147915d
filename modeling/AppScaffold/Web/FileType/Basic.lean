/-!
# Tables of file types

Media types with the endings of the names of their files, in lower case. An ending stands in one
row at most.
-/

set_option autoImplicit false

namespace AppScaffold.Web

abbrev FileTypeTable := List (String × List String)

namespace FileTypeTable

def typeOf? (table : FileTypeTable) (ending : String) : Option String :=
  (table.find? fun row => row.2.contains ending).map (·.1)

end FileTypeTable

end AppScaffold.Web
