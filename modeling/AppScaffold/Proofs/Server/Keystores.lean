import AppScaffold.Proofs.Build.Package
import AppScaffold.Proofs.Server.Building

/-!
# Builds with an uploaded keystore

From the upload of a keystore to the build that uses it: a token is taken back unless two points in
a row are in it. Main statement: `stored_keystore_provided_iff`.
-/

set_option autoImplicit false

namespace AppScaffold.Server

open App (Project)
open Build (Builder)
open Check (TwoPoints sanitizeFileName)
open Host (Files Path.join outcome)
open Web (Request Response)

variable {s : Service} {m m' : Moment} {up order : Request} {before stored : State}
  {token : String} {contents : ByteArray} {o : Order} {p : Project}

def keystorePath (s : Service) (m : Moment) : String :=
  Path.join (s.builder.projectDir ⟨m.milliseconds, m.unique⟩) "app.keystore"

/-- What the service knows of a file that it has stored. -/
structure IsStored (s : Service) (files : Files) (t : Nat) (name : String)
    (contents : ByteArray) : Prop where
  read : files.read (Path.join s.uploadDir (storedName t name)) = .ok contents
  size : (storedName t name).utf8ByteSize ≤ 255

theorem findUpload_of_isStored {t : Nat} {name : String}
    (h : IsStored s before.files t name contents) :
    outcome (findUpload s (storedName t name)) before =
      if TwoPoints (sanitizeFileName name).toList then
        (.error (.badRequest "Invalid keystore path"), before)
      else (.ok (Path.join s.uploadDir (storedName t name)), before) := by
  rw [outcome_findUpload, Files.isFile_of_read h.read, if_pos rfl]
  have hvalid := isValid_storedName_iff h.size
  by_cases hpoints : TwoPoints (sanitizeFileName name).toList
  · rw [if_neg fun hv => hvalid.mp hv hpoints, if_pos hpoints]
  · rw [if_pos (hvalid.mpr hpoints), if_neg hpoints]

theorem isStored_of_storeUpload {field : String} {form : Web.Form}
    (h : outcome (storeUpload s m field form) before = (.ok token, stored)) :
    ∃ part, form.find field = .ok (some part) ∧
      token = storedName m.milliseconds (part.fileName.getD field) ∧
      IsStored s stored.files m.milliseconds (part.fileName.getD field)
        ⟨part.contents.toArray⟩ := by
  obtain ⟨part, hpart, _, rfl, hwrite, _⟩ := outcome_storeUpload_eq_ok_iff.mp h
  exact ⟨part, hpart, rfl, read_of_writeUpload hwrite,
    size_le_of_writeUpload (isName_storedName _ _) hwrite⟩

theorem nonempty_storedName (t : Nat) (name : String) :
    nonempty (some (storedName t name)) = some (storedName t name) := by
  unfold nonempty
  split
  · rename_i heq
    exact absurd (Option.some.inj heq) (isName_storedName t name).ne_empty
  · rfl

structure Orders (s : Service) (order : Request) (p : Project) (token : String) : Prop where
  method : order.method = .post
  path : order.path = "/api/generate-apk"
  body : ∃ o, readBody s.bodyLimit Order.read order = .ok o ∧ o.project? = .ok p ∧
    o.keystore = some token

theorem route_generate : Route.ofPath "/api/generate-apk" = .generate := by decide

theorem route_uploadKeystore : Route.ofPath "/api/upload-keystore" = .uploadKeystore := by
  decide

theorem run_respond_of_orders {t : Nat} {name : String} (m' : Moment)
    (horder : Orders s order p (storedName t name)) (before : State) :
    ∃ password, (respond s m' order).run before =
      match outcome (findUpload s (storedName t name)) before with
      | (.error e, after) => (openToAll e.toResponse, after)
      | (.ok path, after) =>
        let built := outcome (s.builder.build s.launcher s.environment
          ⟨m'.milliseconds, m'.unique⟩ ⟨p, password, some path⟩) after.files
        (openToAll (match built.1 with
          | .ok out => jsonResponse 200 (Outcome.toJson out)
          | .error e => (Problem.ofBuildError e).toResponse),
        ⟨built.2, countEnd m' built.1 (after.metrics.increment Telemetry.buildsStarted)⟩) := by
  obtain ⟨o, hbody, hp, htoken⟩ := horder.body
  have hkeystore : nonempty o.keystore = some (storedName t name) := by
    rw [htoken, nonempty_storedName]
  refine ⟨nonempty o.password, ?_⟩
  rw [run_respond .generate (horder.path ▸ route_generate) horder.method rfl]
  change (openToAll ((generate s m' order).run before).1, ((generate s m' order).run before).2) = _
  rw [run_generate hbody, outcome_request hp hkeystore]
  rcases outcome (findUpload s (storedName t name)) before with ⟨e | path, after⟩ <;> rfl

theorem respond_of_twoPoints {t : Nat} {name : String} (m' : Moment)
    (h : IsStored s before.files t name contents)
    (hpoints : TwoPoints (sanitizeFileName name).toList)
    (horder : Orders s order p (storedName t name)) :
    (respond s m' order).run before =
      (openToAll (Problem.badRequest "Invalid keystore path").toResponse, before) := by
  obtain ⟨password, hrun⟩ := run_respond_of_orders m' horder before
  rw [hrun, findUpload_of_isStored h, if_pos hpoints]

/-- Another token is taken, and the build uses the file that is stored under it. -/
theorem respond_of_ready {t : Nat} {name : String} {warnings : List String}
    {r : Render.RenderedProject} (h : IsStored s before.files t name contents)
    (hpoints : ¬ TwoPoints (sanitizeFileName name).toList)
    (horder : Orders s order p (storedName t name))
    (hcheck : s.builder.check p = .ok warnings)
    (hr : Render.project s.builder.maxDepth p = .ok r)
    (hready : s.builder.Ready ⟨m'.milliseconds, m'.unique⟩ r before.files) :
    ∃ out after, (respond s m' order).run before =
        (openToAll (jsonResponse 200 (Outcome.toJson out)), after) ∧
      out.keystore = .provided (keystorePath s m') ∧
      after.files.read (keystorePath s m') = .ok contents := by
  obtain ⟨password, hrun⟩ := run_respond_of_orders m' horder before
  obtain ⟨out, after, hbuild, hprovided, hread, _⟩ :=
    Build.exists_build_of_ready s.launcher s.environment password hcheck hr hready h.read
  refine ⟨out, ⟨after, countEnd m' (.ok out) (before.metrics.increment Telemetry.buildsStarted)⟩,
    ?_, hprovided, hread⟩
  rw [hrun, findUpload_of_isStored h, if_neg hpoints]
  dsimp only
  rw [hbuild]

/-- An upload of a keystore that is answered with success is stored under the token in the
answer. -/
theorem exists_isStored_of_respond (hmethod : up.method = .post)
    (hpath : up.path = "/api/upload-keystore") (before : State)
    (hok : ((respond s m up).run before).1.status = 200) :
    ∃ form part stored, formOf? s up = some form ∧ form.find "keystore" = .ok (some part) ∧
      (respond s m up).run before = (openToAll (storedAnswer "Keystore" "keystorePath"
        (storedName m.milliseconds (part.fileName.getD "keystore"))), stored) ∧
      IsStored s stored.files m.milliseconds (part.fileName.getD "keystore")
        ⟨part.contents.toArray⟩ := by
  have hserve := run_respond .uploadKeystore (hpath ▸ route_uploadKeystore) hmethod rfl
    (s := s) (m := m) before
  rw [hserve] at hok
  obtain ⟨form, token, stored, hform, hstore, hupload⟩ := exists_stored_of_upload hok
  obtain ⟨part, hpart, rfl, hstored⟩ := isStored_of_storeUpload hstore
  refine ⟨form, part, stored, hform, hpart, ?_, hstored⟩
  rw [hserve]
  exact congrArg (fun answer => (openToAll answer.1, answer.2)) hupload

/-- A keystore whose upload is answered with success is stored under the token in the answer. An
order with this token builds with the very bytes that were uploaded, unless the cleaned name has
two points in a row: then the order is turned down. -/
theorem stored_keystore_provided_iff (s : Service) (m : Moment) (up : Request) (before : State)
    (hmethod : up.method = .post) (hpath : up.path = "/api/upload-keystore")
    (hok : ((respond s m up).run before).1.status = 200) :
    ∃ form part stored, formOf? s up = some form ∧ form.find "keystore" = .ok (some part) ∧
      let name := part.fileName.getD "keystore"
      let token := storedName m.milliseconds name
      (respond s m up).run before =
        (openToAll (storedAnswer "Keystore" "keystorePath" token), stored) ∧
      stored.files.read (Path.join s.uploadDir token) = .ok ⟨part.contents.toArray⟩ ∧
      (TwoPoints (sanitizeFileName name).toList ↔
        TwoPoints ((Check.baseName name.toList).dropWhile (· == '.'))) ∧
      ∀ (m' : Moment) (order : Request) (p : Project), Orders s order p token →
        (TwoPoints (sanitizeFileName name).toList →
          (respond s m' order).run stored =
            (openToAll (Problem.badRequest "Invalid keystore path").toResponse, stored)) ∧
        (¬ TwoPoints (sanitizeFileName name).toList →
          ∀ warnings r, s.builder.check p = .ok warnings →
            Render.project s.builder.maxDepth p = .ok r →
            s.builder.Ready ⟨m'.milliseconds, m'.unique⟩ r stored.files →
            ∃ out after, (respond s m' order).run stored =
                (openToAll (jsonResponse 200 (Outcome.toJson out)), after) ∧
              out.keystore = .provided (keystorePath s m') ∧
              after.files.read (keystorePath s m') = .ok ⟨part.contents.toArray⟩) := by
  obtain ⟨form, part, stored, hform, hpart, hrun, hstored⟩ :=
    exists_isStored_of_respond hmethod hpath before hok
  refine ⟨form, part, stored, hform, hpart, hrun, hstored.read,
    Check.twoPoints_sanitizeFileName_iff, fun m' order p horder => ⟨fun hpoints => ?_,
      fun hpoints warnings r hcheck hr hready => ?_⟩⟩
  · exact respond_of_twoPoints m' hstored hpoints horder
  · exact respond_of_ready hstored hpoints horder hcheck hr hready

/-! ## One keystore that is taken and one that is not -/

def rootService : Service :=
  { builder := Build.rootBuilder, staticDir := ".", uploadDir := "/u", uploadLimit := megabyte
    bodyLimit := megabyte, environment := [], launcher := Build.idleLauncher, session := "s" }

def rootMoment : Moment := { milliseconds := 7, unique := "a" }

def emptyState : State := { files := { root := .emptyDir } }

def keyUpload (name : String) : Request :=
  { method := .post, target := "/api/upload-keystore"
    headers := [("content-type", "multipart/form-data; boundary=x")]
    body := ("--x\r\nContent-Disposition: form-data; name=\"keystore\"; filename=\"" ++ name ++
      "\"\r\n\r\nkey\r\n--x--\r\n").toUTF8 }

def keyOrder (token : String) : Request :=
  { method := .post, target := "/api/generate-apk"
    headers := [("content-type", "application/json")]
    body := (Json.ofMembers [("project", .ofMembers [("name", .text "Notes"),
      ("package", .text "io.notes"), ("screens", .ofMembers [("mainScreen", .ofMembers
        [("name", .text "Home")])])]), ("keystorePath", .text token)]).compact.toUTF8 }

def uploaded? (r : Request) : Option (Option String × List UInt8) := do
  let part ← ((← formOf? rootService r).find "keystore").toOption.join
  return (part.fileName, part.contents)

def ordered? (r : Request) (token : String) : Option Project := do
  let o ← (readBody rootService.bodyLimit Order.read r).toOption
  if o.keystore = some token then o.project?.toOption else none

def isBuildable (p : Project) : Bool :=
  Build.hasShortPaths p && (Build.rootBuilder.check p).toOption.isSome

def keyBytes : List UInt8 := Web.Form.bytes "key"

theorem ordered?_eq_some_iff {r : Request} :
    ordered? r token = some p ↔ ∃ o, readBody rootService.bodyLimit Order.read r = .ok o ∧
      o.keystore = some token ∧ o.project? = .ok p := by
  simp [ordered?, Option.bind_eq_some_iff, toOption_eq_some_iff]

theorem path_keyUpload (name : String) : (keyUpload name).path = "/api/upload-keystore" := by
  change (Web.Target.ofText "/api/upload-keystore").path = _
  decide

theorem path_keyOrder (token : String) : (keyOrder token).path = "/api/generate-apk" := by
  change (Web.Target.ofText "/api/generate-apk").path = _
  decide

theorem uploaded?_of_part {r : Request} {form : Web.Form} {part : Web.FormPart}
    (hform : formOf? rootService r = some form)
    (hpart : form.find "keystore" = .ok (some part)) :
    uploaded? r = some (part.fileName, part.contents) := by
  rw [uploaded?, hform]
  change ((form.find "keystore").toOption.join).bind _ = _
  rw [hpart]
  rfl

theorem exists_isStored_keyUpload {name : String}
    (hok : ((respond rootService rootMoment (keyUpload name)).run emptyState).1.status = 200)
    (hname : uploaded? (keyUpload name) = some (some name, keyBytes)) :
    ∃ stored, (respond rootService rootMoment (keyUpload name)).run emptyState =
        (openToAll (storedAnswer "Keystore" "keystorePath" (storedName 7 name)), stored) ∧
      IsStored rootService stored.files 7 name ⟨keyBytes.toArray⟩ := by
  obtain ⟨form, part, stored, hform, hpart, hrun, hstored⟩ :=
    exists_isStored_of_respond rfl (path_keyUpload name) emptyState hok
  obtain ⟨hfile, hcontents⟩ :=
    Prod.mk.inj (Option.some.inj ((uploaded?_of_part hform hpart).symm.trans hname))
  rw [hfile, hcontents] at hstored
  rw [hfile] at hrun
  exact ⟨stored, hrun, hstored⟩

theorem exists_orders_keyOrder {token : String}
    (h : (ordered? (keyOrder token) token).any isBuildable = true) :
    ∃ p warnings r, Orders rootService (keyOrder token) p token ∧
      Build.rootBuilder.check p = .ok warnings ∧ Render.project 32 p = .ok r ∧
      ∀ before : Files, Build.isUnbuilt before.root = true →
        Build.rootBuilder.Ready Build.rootStamp r before := by
  obtain ⟨p, hp, hbuildable⟩ := (Option.any_eq_true _ _).mp h
  obtain ⟨hshort, hchecked⟩ := Bool.and_eq_true_iff.mp hbuildable
  obtain ⟨warnings, hwarnings⟩ := Option.isSome_iff_exists.mp hchecked
  have hcheck := toOption_eq_some_iff.mp hwarnings
  have hacceptable := (Check.accept_eq_ok_iff.mp hcheck).1
  obtain ⟨r, hr, _⟩ := Render.exists_project_plain 32 hacceptable
  obtain ⟨o, hbody, htoken, hproject⟩ := ordered?_eq_some_iff.mp hp
  exact ⟨p, warnings, r, ⟨rfl, path_keyOrder token, o, hbody, hproject, htoken⟩, hcheck, hr,
    fun before hbefore => Build.ready_rootBuilder hbefore hacceptable hr
      (Build.short_of_hasShortPaths hshort hr)⟩

/-- The answer to an upload, and whether the ground for a build is clear after it. -/
def uploadRun (name : String) : Nat × Bool :=
  let run := (respond rootService rootMoment (keyUpload name)).run emptyState
  (run.1.status, Build.isUnbuilt run.2.files.root)

theorem keyUpload_provided :
    ((respond rootService rootMoment (keyUpload "my key.jks")).run emptyState).1.status = 200 ∧
    ∃ stored out after,
      (respond rootService rootMoment (keyUpload "my key.jks")).run emptyState =
        (openToAll (storedAnswer "Keystore" "keystorePath" "7-my_key.jks"), stored) ∧
      (respond rootService rootMoment (keyOrder "7-my_key.jks")).run stored =
        (openToAll (jsonResponse 200 (Outcome.toJson out)), after) ∧
      out.keystore = .provided "/w/project_7_a/app.keystore" ∧
      after.files.read "/w/project_7_a/app.keystore" = .ok ⟨keyBytes.toArray⟩ := by
  have hrun : uploadRun "my key.jks" = (200, true) := by decide +kernel
  have hupload : uploaded? (keyUpload "my key.jks") =
      some (some "my key.jks", keyBytes) := by decide +kernel
  have horder : (ordered? (keyOrder "7-my_key.jks") "7-my_key.jks").any
      isBuildable = true := by decide +kernel
  have htoken : storedName 7 "my key.jks" = "7-my_key.jks" := by decide
  have hpath : keystorePath rootService rootMoment = "/w/project_7_a/app.keystore" := by
    decide
  obtain ⟨hok, hclear⟩ := Prod.mk.inj hrun
  obtain ⟨form, part, stored, hform, hpart, hanswer, -, -, hbuilds⟩ := stored_keystore_provided_iff
    rootService rootMoment (keyUpload "my key.jks") emptyState rfl (path_keyUpload _) hok
  obtain ⟨hfile, hcontents⟩ :=
    Prod.mk.inj (Option.some.inj ((uploaded?_of_part hform hpart).symm.trans hupload))
  rw [hfile, hcontents, Option.getD_some] at hbuilds
  rw [hfile, Option.getD_some] at hanswer
  rw [hanswer] at hclear
  obtain ⟨p, warnings, r, horders, hcheck, hr, hready⟩ := exists_orders_keyOrder horder
  have hpoints : ¬ TwoPoints (sanitizeFileName "my key.jks").toList := by decide
  obtain ⟨out, after, hbuilt, hprovided, hread⟩ := (hbuilds rootMoment (keyOrder "7-my_key.jks")
    p (htoken ▸ horders)).2 hpoints warnings r hcheck hr (hready stored.files hclear)
  rw [hpath] at hprovided hread
  exact ⟨hok, stored, out, after, htoken ▸ hanswer, hbuilt, hprovided, hread⟩

/-- A keystore can be stored under a token that is then turned down. -/
theorem not_every_token_taken : ¬ ∀ (s : Service) (m m' : Moment) (up order : Request)
    (before stored : State) (token : String) (p : Project) (warnings : List String)
    (r : Render.RenderedProject), up.method = .post → up.path = "/api/upload-keystore" →
    (respond s m up).run before =
      (openToAll (storedAnswer "Keystore" "keystorePath" token), stored) →
    Orders s order p token → s.builder.check p = .ok warnings →
    Render.project s.builder.maxDepth p = .ok r →
    s.builder.Ready ⟨m'.milliseconds, m'.unique⟩ r stored.files →
      ((respond s m' order).run stored).1.status = 200 := by
  intro h
  have hrun : uploadRun "my..key.jks" = (200, true) := by decide +kernel
  have hupload : uploaded? (keyUpload "my..key.jks") =
      some (some "my..key.jks", keyBytes) := by decide +kernel
  have horder : (ordered? (keyOrder (storedName 7 "my..key.jks"))
      (storedName 7 "my..key.jks")).any isBuildable = true := by decide +kernel
  obtain ⟨hok, hclear⟩ := Prod.mk.inj hrun
  obtain ⟨stored, hanswer, hstored⟩ := exists_isStored_keyUpload hok hupload
  rw [hanswer] at hclear
  obtain ⟨p, warnings, r, horders, hcheck, hr, hready⟩ := exists_orders_keyOrder horder
  have htaken := h rootService rootMoment rootMoment _ _ emptyState stored _ p warnings r rfl
    (path_keyUpload _) hanswer horders hcheck hr (hready stored.files hclear)
  have hpoints : TwoPoints (sanitizeFileName "my..key.jks").toList := by decide
  rw [respond_of_twoPoints rootMoment hstored hpoints horders] at htaken
  cases htaken

end AppScaffold.Server
