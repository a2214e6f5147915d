import AppScaffold.Proofs.Check.Classes
import AppScaffold.Proofs.Check.Form
import AppScaffold.Proofs.Xml.ResourceText
import AppScaffold.Proofs.Xml.Texts
import AppScaffold.Render.Resources

/-!
# String resources read back

What an XML reader finds in the string resources of an accepted project: the name of the app and
then the names of the screens beside the main one, each under a name of its own and as it was
given, whatever characters it holds. Main statement: `strings_read_back`.
-/

set_option autoImplicit false

namespace AppScaffold.Xml.Node

def isBlank : Node → Bool
  | .text t => t.toList.all isSpace
  | _ => false

/-- Name and value of a string resource; its text has a backslash before each apostrophe. -/
def resource? : Node → Option (String × String)
  | .element "string" [⟨"name", name⟩] [.text t] =>
    some (name, String.ofList (unguardApostrophes t.toList))
  | _ => none

/-- A document of resources that holds nothing but strings, in their order. -/
def resources? (forest : List Node) : Option (List (String × String)) :=
  match forest.filter (!·.isBlank) with
  | [.element "resources" [] children] => (children.filter (!·.isBlank)).mapM resource?
  | _ => none

end AppScaffold.Xml.Node

namespace AppScaffold.Render

open App (Project Screen mainScreenId)
open Xml (Mode Node Token)

def namedStrings (p : Project) : List (String × String) :=
  ("app_name", p.name) :: p.secondaryScreens.map fun s => ("screen_" ++ s.1, s.2.name)

/-! ## Tokens -/

def guardedText (value : String) : String := String.ofList (Xml.guardApostrophes value.toList)

def resourceTokens (e : String × String) : List Token :=
  [.text "\n    ", .startTag "string" [⟨"name", e.1⟩], .text (guardedText e.2), .endTag "string"]

theorem lt_not_mem_resourceText (value : String) : '<' ∉ (Xml.resourceText value).toList := by
  rw [Xml.toList_resourceText]
  intro h
  exact (Xml.mem_escapeChars h).2 rfl

theorem lt_not_mem_of_isNameChar {name : String} (h : name.toList.all Xml.isNameChar) :
    '<' ∉ name.toList := by
  intro hmem
  exact absurd (List.all_eq_true.mp h _ hmem) (by decide)

theorem steps_stringTag {name : String} (h : name.toList.all Xml.isNameChar) :
    Mode.opening.steps ("string name=\"" ++ name ++ "\">").toList =
      some (.text [], [.startTag "string" [⟨"name", name⟩]]) := by
  have htag : Mode.opening.steps "string ".toList = some (.inside "string".toList [] true, []) := by
    decide
  have hkey := Mode.steps_assignment (a := ⟨"name", name⟩) (show Xml.isName "name" by decide)
    "string".toList []
  have hend : (Mode.inside "string".toList [⟨"name", name⟩] false).steps ">".toList =
      some (.text [], [.startTag "string" [⟨"name", name⟩]]) := by
    rfl
  have hrun := Mode.steps_append htag (Mode.steps_append hkey hend)
  rw [Xml.escape_of_isNameChar h] at hrun
  simpa [String.toList_append] using hrun

/-- A string resource behind the end of a line, up to the end of its own line. -/
theorem readKept_stringResource {name : String} (value : String)
    (hname : name.toList.all Xml.isNameChar) (ys : List Char) :
    (Mode.text ['\n']).readKept ((stringResource name value).toList ++ ys) =
      ((Mode.text ['\n']).readKept ys).map (resourceTokens (name, value) ++ ·) := by
  have hlt : '<' ∉ ("string name=\"" ++ name ++ "\">").toList := by
    simpa [String.toList_append] using lt_not_mem_of_isNameChar hname
  have hvalue : Xml.decode? ([] ++ (Xml.resourceText value).toList) =
      some (guardedText value).toList := by
    rw [List.nil_append, Xml.decode?_resourceText, guardedText, String.toList_ofList]
  have hclose : Mode.opening.steps "/string>\n".toList =
      some (.text ['\n'], [.endTag "string"]) := by
    decide
  have hopenPart := Mode.readKept_part ['\n'] "    ".toList "\n    " rfl (by decide)
    (steps_stringTag hname) hlt
    ((Xml.resourceText value).toList ++ '<' :: "/string>\n".toList ++ ys)
  have hclosePart := Mode.readKept_part [] (Xml.resourceText value).toList (guardedText value)
    hvalue (lt_not_mem_resourceText value) hclose (by decide) ys
  have hlines : (stringResource name value).toList ++ ys =
      "    ".toList ++ '<' :: ("string name=\"" ++ name ++ "\">").toList ++
        ((Xml.resourceText value).toList ++ '<' :: "/string>\n".toList ++ ys) := by
    have hopenLine : "    <string name=\"" = "    " ++ ("<" ++ "string name=\"") := by decide
    have hcloseLine : "</string>\n" = "<" ++ "/string>\n" := by decide
    have hmark (xs : List Char) : '<' :: xs = "<".toList ++ xs := rfl
    unfold stringResource
    rw [hopenLine, hcloseLine, hmark, hmark]
    simp only [String.toList_append, List.append_assoc]
  rw [hlines, hopenPart, hclosePart, Option.map_map]
  rfl

theorem readKept_stringResources {entries : List (String × String)}
    (h : ∀ e ∈ entries, e.1.toList.all Xml.isNameChar) (ys : List Char) :
    (Mode.text ['\n']).readKept
        ((String.join (entries.map fun e => stringResource e.1 e.2)).toList ++ ys) =
      ((Mode.text ['\n']).readKept ys).map (entries.flatMap resourceTokens ++ ·) := by
  induction entries with
  | nil => simp
  | cons e entries ih =>
    obtain ⟨he, hentries⟩ := List.forall_mem_cons.mp h
    rw [List.map_cons, String.join_cons, String.toList_append, List.append_assoc,
      readKept_stringResource e.2 he, ih hentries, Option.map_map]
    simp [Function.comp_def]

/-! ## The document -/

theorem strings_eq (p : Project) :
    strings p = Xml.prolog ++ "<resources>\n" ++
      String.join ((namedStrings p).map fun e => stringResource e.1 e.2) ++ "</resources>\n" := by
  simp [strings, namedStrings, String.append_assoc, Function.comp_def]

def stringElement (e : String × String) : Node :=
  .element "string" [⟨"name", e.1⟩] [.text (guardedText e.2)]

def resourceNodes (e : String × String) : List Node := [.text "\n    ", stringElement e]

theorem assemble_resourceTokens (stack : List Xml.Frame) (done : List Node) (rest : List Token)
    (entries : List (String × String)) :
    Node.assemble stack done (entries.flatMap resourceTokens ++ rest) =
      Node.assemble stack (done ++ entries.flatMap resourceNodes) rest := by
  induction entries generalizing done with
  | nil => simp
  | cons e entries ih => simp [resourceTokens, resourceNodes, stringElement, Node.assemble, ih]

def stringsForest (entries : List (String × String)) : List Node :=
  [.text "", .text "\n",
    .element "resources" [] (entries.flatMap resourceNodes ++ [.text "\n"]), .text "\n"]

theorem ofKeptText?_strings {p : Project}
    (h : ∀ e ∈ namedStrings p, e.1.toList.all Xml.isNameChar) :
    Node.ofKeptText? (strings p) = some (stringsForest (namedStrings p)) := by
  have hprolog : Mode.opening.steps "?xml version=\"1.0\" encoding=\"utf-8\"?>\n".toList =
      some (.text ['\n'], [.instruction "xml version=\"1.0\" encoding=\"utf-8\""]) := by
    decide
  have hroot : Mode.opening.steps "resources>\n".toList =
      some (.text ['\n'], [.startTag "resources" []]) := by
    decide
  have hclose : Mode.opening.steps "/resources>\n".toList =
      some (.text ['\n'], [.endTag "resources"]) := by
    decide
  have hprologPart := Mode.readKept_part [] [] "" rfl (by decide) hprolog (by decide)
  have hrootPart := Mode.readKept_part ['\n'] [] "\n" rfl (by decide) hroot (by decide)
  have hclosePart := Mode.readKept_part ['\n'] [] "\n" rfl (by decide) hclose (by decide) []
  -- The document is cut where a tag begins: the prolog, the root, the strings and the end of the
  -- root.
  have hlines : (strings p).toList =
      [] ++ '<' :: "?xml version=\"1.0\" encoding=\"utf-8\"?>\n".toList ++
        ([] ++ '<' :: "resources>\n".toList ++
          ((String.join ((namedStrings p).map fun e => stringResource e.1 e.2)).toList ++
            ([] ++ '<' :: "/resources>\n".toList ++ []))) := by
    have hfirst : Xml.prolog = "<" ++ "?xml version=\"1.0\" encoding=\"utf-8\"?>\n" := by decide
    have hopenLine : "<resources>\n" = "<" ++ "resources>\n" := by decide
    have hcloseLine : "</resources>\n" = "<" ++ "/resources>\n" := by decide
    have hmark (xs : List Char) : '<' :: xs = "<".toList ++ xs := rfl
    rw [strings_eq, hfirst, hopenLine, hcloseLine, hmark, hmark, hmark]
    simp only [String.toList_append, List.append_assoc, List.nil_append, List.append_nil]
  have hlast : (Mode.text ['\n']).readKept [] = some [.text "\n"] := rfl
  rw [Node.ofKeptText?, hlines, hprologPart, hrootPart, readKept_stringResources h, hclosePart,
    hlast]
  simp [Node.assemble, assemble_resourceTokens, stringsForest]

/-! ## Names and values -/

theorem resource?_stringElement (e : String × String) :
    Node.resource? (stringElement e) = some e := by
  have hvalue : String.ofList (Xml.unguardApostrophes (guardedText e.2).toList) = e.2 := by
    rw [guardedText, String.toList_ofList, Xml.unguardApostrophes_guardApostrophes,
      String.ofList_toList]
  simp [stringElement, Node.resource?, hvalue]

theorem mapM_resource? (entries : List (String × String)) :
    (entries.map stringElement).mapM Node.resource? = some entries := by
  induction entries with
  | nil => rfl
  | cons e entries ih =>
    rw [List.map_cons, List.mapM_cons, resource?_stringElement, ih]
    rfl

theorem filter_resourceNodes (entries : List (String × String)) :
    (entries.flatMap resourceNodes).filter (!·.isBlank) = entries.map stringElement := by
  induction entries with
  | nil => rfl
  | cons e entries ih =>
    rw [List.flatMap_cons, List.filter_append, ih]
    rfl

theorem resources?_stringsForest (entries : List (String × String)) :
    Node.resources? (stringsForest entries) = some entries := by
  have hroot : (stringsForest entries).filter (!·.isBlank) =
      [.element "resources" [] (entries.flatMap resourceNodes ++ [.text "\n"])] := rfl
  have hlast : ([.text "\n"] : List Node).filter (!·.isBlank) = [] := rfl
  rw [Node.resources?, hroot]
  simp only [List.filter_append, filter_resourceNodes, hlast, List.append_nil, mapM_resource?]

theorem isNameChar_of_isWordChar {c : Char} (h : Pattern.isWordChar c) : Xml.isNameChar c := by
  rcases Bool.or_eq_true_iff.mp h with h | h <;> simp [Xml.isNameChar, h]

theorem isNameChar_of_mem_namedStrings {p : Project} (hp : Check.Acceptable p) :
    ∀ e ∈ namedStrings p, e.1.toList.all Xml.isNameChar := by
  intro e he
  rcases List.mem_cons.mp he with rfl | he
  · exact (by decide : "app_name".toList.all Xml.isNameChar)
  · obtain ⟨s, hs, rfl⟩ := List.mem_map.mp he
    have hid := hp.ids s (List.mem_filter.mp hs).1
    rw [String.toList_append, List.all_append, Bool.and_eq_true]
    refine ⟨by decide, List.all_eq_true.mpr fun c hc => ?_⟩
    exact isNameChar_of_isWordChar (Check.isWordChar_of_mem_id hid hc)

theorem nodup_resourceNames (p : Project) :
    ("app_name" :: p.secondaryScreens.map fun s => "screen_" ++ s.1).Nodup := by
  rw [List.nodup_cons]
  constructor
  · intro h
    obtain ⟨s, _, heq⟩ := List.mem_map.mp h
    have hfirst := congrArg (·.toList.head?) heq
    simp [String.toList_append] at hfirst
  · have hinj : Function.Injective ("screen_" ++ ·) := fun a b heq =>
      (String.append_right_inj "screen_").mp heq
    have hids := (Check.nodup_secondaryIds p).map hinj
    rwa [List.map_map] at hids

/-- Whatever the names in an accepted project are, its string resources read as the name of the app
and then the name of each screen beside the main one, in the order of the ids. The resources have
names of their own. -/
theorem strings_read_back (maxDepth : Nat) (p : Project)
    (h : (Check.project maxDepth p).errors = []) :
    (Node.ofKeptText? (strings p)).bind Node.resources? =
        some (("app_name", p.name) ::
          p.secondaryScreens.map fun s => ("screen_" ++ s.1, s.2.name)) ∧
      ("app_name" :: p.secondaryScreens.map fun s => "screen_" ++ s.1).Nodup ∧
      p.secondaryScreens.Pairwise (fun s t => s.1 < t.1) ∧
      ∀ id s, (id, s) ∈ p.secondaryScreens ↔ p.screens.find? id = some s ∧ id ≠ mainScreenId := by
  have hp : Check.Acceptable p :=
    (Check.isValid_project_iff maxDepth p).mp (List.isEmpty_iff.mpr h)
  refine ⟨?_, nodup_resourceNames p, Check.ordered_secondaryScreens p, fun id s => ?_⟩
  · rw [ofKeptText?_strings (isNameChar_of_mem_namedStrings hp), Option.bind_some]
    exact resources?_stringsForest (namedStrings p)
  · rw [Project.secondaryScreens, List.mem_filter, p.screens.find?_eq_some_iff, bne_iff_ne]

/-- Names with what has a meaning in the document or to its reader, a blank one, and an id that is
empty. -/
def quotedProject : Project :=
  ((({ name := "Bob\\'s </string> &amp; \"R&D\"\r\n", package := "io.notes.app" } :
    Project).withScreen mainScreenId { name := "Home" }).withScreen "info"
    { name := "&#39;\\\\n' &" }).withScreen "" { name := " \n" }

theorem acceptable_quotedProject : Check.Acceptable quotedProject where
  nameGiven := by decide
  packageGiven := by decide
  package := by decide
  home := by decide
  ids := by decide
  classes := by decide

theorem strings_read_back_quotedProject :
    (Check.project 32 quotedProject).errors = [] ∧
      (Node.ofKeptText? (strings quotedProject)).bind Node.resources? =
        some [("app_name", "Bob\\'s </string> &amp; \"R&D\"\r\n"), ("screen_", " \n"),
          ("screen_info", "&#39;\\\\n' &")] := by
  have herrors : (Check.project 32 quotedProject).errors = [] :=
    List.isEmpty_iff.mp ((Check.isValid_project_iff 32 _).mpr acceptable_quotedProject)
  have hscreens : (("app_name", quotedProject.name) ::
      quotedProject.secondaryScreens.map fun s => ("screen_" ++ s.1, s.2.name)) =
        [("app_name", "Bob\\'s </string> &amp; \"R&D\"\r\n"), ("screen_", " \n"),
          ("screen_info", "&#39;\\\\n' &")] := by
    decide
  exact ⟨herrors, hscreens ▸ (strings_read_back 32 quotedProject herrors).1⟩

end AppScaffold.Render
