import AppScaffold.Proofs.Check.FileName
import AppScaffold.Proofs.Server.Building

/-!
# Children of a directory

A name that the check of file names lets through leads to a child of the directory it is joined
onto. Uploads that are given back and packages that are downloaded rest on this check alone: what
they find depends on nothing but the children of their directories. Main statement:
`accepted_names_lead_to_children`.
-/

set_option autoImplicit false

namespace AppScaffold

/-! ## Paths -/

namespace Host.Path

/-- The components of a path are those of a directory and one name behind them. -/
def IsChild (dir path : String) : Prop :=
  ∃ name, IsName name ∧ components path = components dir ++ [.normal name]

theorem isChild_join (dir : String) {name : String} (h : IsName name) :
    IsChild dir (join dir name) := ⟨name, h, components_join_name dir h⟩

end Host.Path

namespace Host.Files

/-- In both trees the paths of a directory's children lead to the same. -/
def SameChildren (dir : String) (a b : Files) : Prop :=
  ∀ path, Path.IsChild dir path → a.node? path = b.node? path

variable {dir path : String} {a b : Files}

theorem read_toOption (fs : Files) (path : String) :
    (fs.read path).toOption = (fs.node? path).bind (·.item.contents?) := by
  rw [read, node?]
  cases fs.find true path with
  | error e => rfl
  | ok found =>
    simp only [bind, Except.bind]
    rcases found.node with _ | ⟨_ | _ | _⟩ <;> rfl

theorem SameChildren.isFile (h : SameChildren dir a b) (hpath : Path.IsChild dir path) :
    a.isFile path = b.isFile path := by
  rw [Files.isFile, Files.isFile, h path hpath]

theorem SameChildren.read (h : SameChildren dir a b) (hpath : Path.IsChild dir path) :
    (a.read path).toOption = (b.read path).toOption := by
  rw [read_toOption, read_toOption, h path hpath]

end Host.Files

/-! ## Names -/

namespace Check

open Host.Path (IsName)

variable {name : String}

theorem isName_of_isValid (h : (fileName name).isValid = true) : IsName name := by
  obtain ⟨hblank, -, hseparators, hcurrent, hpoints, -⟩ := isValid_fileName_iff.mp h
  refine ⟨?_, hcurrent, ?_, ?_⟩
  · rintro rfl
    cases hblank
  · rintro rfl
    exact hpoints (List.infix_refl _)
  · intro hslash
    cases hseparators '/' hslash

theorem not_mem_of_isValid (h : (fileName name).isValid = true) {c : Char}
    (hc : c ∈ ['/', '\\', '\x00']) : c ∉ name.toList := by
  obtain ⟨-, -, hseparators, -, -, hnul⟩ := isValid_fileName_iff.mp h
  intro hmem
  simp only [List.mem_cons, List.not_mem_nil, or_false] at hc
  rcases hc with rfl | rfl | rfl
  · cases hseparators '/' hmem
  · cases hseparators '\\' hmem
  · exact hnul hmem

end Check

/-! ## Requests that name a file -/

namespace Server

open Host (Files Path.IsChild Path.components Path.join outcome)
open Web (Request Response)

variable {s : Service} {o : Order} {token segment name : String} {wanted : Option String}
  {r : Request} {a b : State}

theorem findUpload_congr (s : Service) (token : String)
    (h : Files.SameChildren s.uploadDir a.files b.files) :
    (outcome (findUpload s token) a).1 = (outcome (findUpload s token) b).1 := by
  rw [outcome_findUpload, outcome_findUpload]
  split
  · rename_i hvalid
    rw [h.isFile (Host.Path.isChild_join _ (Check.isName_of_isValid hvalid))]
    split <;> rfl
  · rfl

theorem isChild_of_findUpload {path : String}
    (h : outcome (findUpload s token) a = (.ok path, b)) : Path.IsChild s.uploadDir path := by
  rw [outcome_findUpload] at h
  split at h
  · rename_i hvalid
    split at h
    · cases h
      exact Host.Path.isChild_join _ (Check.isName_of_isValid hvalid)
    · cases h
  · cases h

theorem isChild_of_request {request : Build.Builder.Request} {path : String}
    (h : outcome (o.request s) a = (.ok request, b)) (hkeystore : request.keystore = some path) :
    Path.IsChild s.uploadDir path := by
  cases hproject : o.project? with
  | error e =>
    rw [Order.request, hproject] at h
    cases h
  | ok p =>
    cases htoken : nonempty o.keystore with
    | none =>
      rw [Order.request, hproject, htoken] at h
      cases h
      cases hkeystore
    | some token =>
      rw [outcome_request hproject htoken] at h
      split at h
      · rename_i hfound
        cases h
        cases hkeystore
        exact isChild_of_findUpload hfound
      · cases h

def packageAnswer (wanted : Option String) (contents : ByteArray) : Response :=
  (Response.ofBody 200 packageType contents).withHeader "content-disposition"
    (attachment (wantedName wanted))

theorem outcome_sendPackage (s : Service) (name : String) (wanted : Option String) (a : State) :
    outcome (sendPackage s name wanted) a =
      ((if (Check.fileName name).isValid then
          (a.files.read (Path.join s.builder.outputDir name)).toOption.map (packageAnswer wanted)
        else none).elim (.error packageNotFound) .ok, a) := by
  unfold sendPackage
  split <;> rename_i hvalid
  · rw [if_neg (by simpa using hvalid)]
    rfl
  · rw [if_pos (by simpa using hvalid), Host.outcome_bind, Host.outcome_get]
    dsimp only
    cases a.files.read (Path.join s.builder.outputDir name) <;> rfl

theorem run_download (s : Service) (segment : String) (r : Request) (a : State) :
    (download s segment r).run a =
      (match Web.decoded? segment, queryValue? r "name" with
        | none, _ => Response.ofText 400 "Invalid URL: Invalid UTF-8 in `filename`"
        | some _, .error refusal => refusal
        | some name, .ok wanted =>
          match (outcome (sendPackage s name wanted) a).1 with
          | .ok answer => answer
          | .error p => p.toResponse, a) := by
  unfold download
  cases Web.decoded? segment with
  | none => rfl
  | some name =>
    cases queryValue? r "name" with
    | error refusal => rfl
    | ok wanted =>
      dsimp only
      rw [Work.run_answer, outcome_sendPackage]
      cases (if (Check.fileName name).isValid then
        (a.files.read (Path.join s.builder.outputDir name)).toOption.map (packageAnswer wanted)
        else none) <;> rfl

theorem sendPackage_congr (s : Service) (name : String) (wanted : Option String)
    (h : Files.SameChildren s.builder.outputDir a.files b.files) :
    (outcome (sendPackage s name wanted) a).1 = (outcome (sendPackage s name wanted) b).1 := by
  rw [outcome_sendPackage, outcome_sendPackage]
  split
  · rename_i hvalid
    rw [h.read (Host.Path.isChild_join _ (Check.isName_of_isValid hvalid))]
  · rfl

theorem download_congr (s : Service) (segment : String) (r : Request)
    (h : Files.SameChildren s.builder.outputDir a.files b.files) :
    ((download s segment r).run a).1 = ((download s segment r).run b).1 := by
  rw [run_download, run_download]
  split
  · rfl
  · rfl
  · rw [sendPackage_congr s _ _ h]

/-- A name that the check lets through is one more component behind any directory. Whatever token
an order gives, the keystore it leads to is a child of the directory for uploads; and whatever the
token of an order or the name of a download is, where both trees have the same children the answer
is the same, and no file is changed. -/
theorem accepted_names_lead_to_children (name : String)
    (h : (Check.fileName name).isValid = true) :
    (name ≠ "" ∧ name ≠ "." ∧ name ≠ ".." ∧ Host.Path.isAbsolute name = false ∧
      '/' ∉ name.toList ∧ '\\' ∉ name.toList ∧ '\x00' ∉ name.toList ∧
      name.utf8ByteSize ≤ 255) ∧
    (∀ dir, Path.components (Path.join dir name) = Path.components dir ++ [.normal name]) ∧
    ∀ s : Service,
      (∀ (o : Order) a request b, outcome (o.request s) a = (.ok request, b) →
        ∀ path, request.keystore = some path → Path.IsChild s.uploadDir path) ∧
      (∀ token a b, Files.SameChildren s.uploadDir a.files b.files →
        (outcome (findUpload s token) a).2 = a ∧
        (outcome (findUpload s token) a).1 = (outcome (findUpload s token) b).1) ∧
      ∀ segment r a b, Files.SameChildren s.builder.outputDir a.files b.files →
        ((download s segment r).run a).2 = a ∧
        ((download s segment r).run a).1 = ((download s segment r).run b).1 := by
  have hname := Check.isName_of_isValid h
  have habsent {c : Char} := @Check.not_mem_of_isValid name h c
  obtain ⟨-, hsize, -⟩ := Check.isValid_fileName_iff.mp h
  refine ⟨⟨hname.ne_empty, hname.ne_current, hname.ne_parent,
    (Host.Path.plain_of_isName hname).not_absolute, habsent (by decide), habsent (by decide),
    habsent (by decide), hsize⟩, fun dir => Host.Path.components_join_name dir hname, fun s =>
    ⟨fun o a request b hrun path hkeystore => isChild_of_request hrun hkeystore,
      fun token a b hsame => ⟨?_, findUpload_congr s token hsame⟩,
      fun segment r a b hsame => ⟨?_, download_congr s segment r hsame⟩⟩⟩
  · rw [outcome_findUpload]
    split
    · split <;> rfl
    · rfl
  · rw [run_download]

/-- A name of blanks and points that is one all the same. -/
theorem pointed_name_is_child :
    (Check.fileName " .a b.apk.").isValid = true ∧
    Path.components (Path.join "out/.." " .a b.apk.") =
      [.normal "out", .parent, .normal " .a b.apk."] := by
  have hvalid : (Check.fileName " .a b.apk.").isValid = true :=
    Check.isValid_fileName_iff.mpr
      ⟨by decide, by decide, by simp [Check.isSeparator], by decide, by decide, by decide⟩
  obtain ⟨-, hjoin, -⟩ := accepted_names_lead_to_children " .a b.apk." hvalid
  refine ⟨hvalid, ?_⟩
  rw [hjoin]
  decide

end Server

end AppScaffold
