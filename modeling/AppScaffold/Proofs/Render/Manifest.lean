import AppScaffold.Proofs.Keyed.Lookup
import AppScaffold.Proofs.Xml.RoundTrip
import AppScaffold.Render.Manifest

/-!
# Manifests read as lists of activities

What an XML reader finds in the manifest of any project, whatever its texts are: the package and
the version as they were given, the activity that the launcher starts, and one plain activity for
each other screen. Main statement: `manifest_reads_as_activities`.
-/

set_option autoImplicit false

namespace AppScaffold.Render

open App (Project Screen mainScreenId)
open Xml (Attribute Mode Node ReadsAs Token android)

/-! ## The element -/

def manifestAttributes (p : Project) : List Attribute :=
  [⟨"xmlns:android", "http://schemas.android.com/apk/res/android"⟩, ⟨"package", p.package⟩,
    android "versionCode" "1", android "versionName" p.version]

def applicationAttributes : List Attribute :=
  [android "allowBackup" "true", android "icon" "@mipmap/ic_launcher",
    android "label" "@string/app_name", android "supportsRtl" "true",
    android "theme" "@style/AppTheme"]

/-- The activity that the launcher starts; the filter makes it that. -/
def launcherElement : Node :=
  .element "activity" [android "name" ".MainActivity", android "exported" "true"]
    [.element "intent-filter" []
      [.element "action" [android "name" "android.intent.action.MAIN"] [],
        .element "category" [android "name" "android.intent.category.LAUNCHER"] []]]

def plainElement (s : Screen) : Node :=
  .element "activity" [android "name" ("." ++ s.activityName)] []

def manifestElement (p : Project) : Node :=
  .element "manifest" (manifestAttributes p)
    [.element "application" applicationAttributes
      (launcherElement :: p.secondaryScreens.map fun s => plainElement s.2)]

/-! ## Tokens -/

theorem isAlphanum_of_mem_activityName {s : Screen} {c : Char}
    (hc : c ∈ s.activityName.toList) : c.isAlphanum := by
  rw [Screen.activityName, String.toList_append, String.toList_ofList] at hc
  rcases List.mem_append.mp hc with hc | hc
  · exact (List.mem_filter.mp hc).2
  · exact List.all_eq_true.mp (by decide : "Activity".toList.all Char.isAlphanum) c hc

theorem isNameChar_activityName (s : Screen) :
    ("." ++ s.activityName).toList.all Xml.isNameChar := by
  rw [String.toList_append, List.all_append, Bool.and_eq_true]
  refine ⟨rfl, List.all_eq_true.mpr fun c hc => ?_⟩
  simp [Xml.isNameChar, isAlphanum_of_mem_activityName hc]

theorem steps_manifestStart (p : Project) :
    (Mode.text []).steps (manifestStart p).toList = some (.text ['\n', '\n'],
      [.instruction "xml version=\"1.0\" encoding=\"utf-8\"",
        .startTag "manifest" (manifestAttributes p)]) := by
  have htag : (Mode.text ['\n']).steps "<manifest ".toList =
      some (.inside "manifest".toList [] true, []) := by
    decide
  have hspace := Mode.steps_assignment
    (a := ⟨"xmlns:android", "http://schemas.android.com/apk/res/android"⟩) (by decide)
    "manifest".toList []
  have hbreak : (Mode.inside "manifest".toList ((manifestAttributes p).take 1) false).steps
      "\n".toList = some (.inside "manifest".toList ((manifestAttributes p).take 1) true, []) := by
    rfl
  have hpackage := Mode.steps_attribute 0 (a := ⟨"package", p.package⟩)
    (show Xml.isName "package" by decide) "manifest".toList ((manifestAttributes p).take 1)
  have hcode := Mode.steps_attribute 0 (a := android "versionCode" "1") (by decide)
    "manifest".toList ((manifestAttributes p).take 2)
  have hblank := Mode.steps_inside (Xml.all_isSpace_indent 1) "manifest".toList
    ((manifestAttributes p).take 3)
  have hversion := Mode.steps_assignment (a := android "versionName" p.version)
    (show Xml.isName ("android:" ++ "versionName") by decide) "manifest".toList
    ((manifestAttributes p).take 3)
  have hend : (Mode.inside "manifest".toList (manifestAttributes p) false).steps ">\n\n".toList =
      some (.text ['\n', '\n'], [.startTag "manifest" (manifestAttributes p)]) := by
    rfl
  have hrun := Mode.steps_append (Mode.steps_append (Mode.steps_append (Mode.steps_append
    (Mode.steps_append (Mode.steps_append (Mode.steps_append (Mode.steps_append Mode.steps_prolog
      htag) hspace) hbreak) hpackage) hcode) hblank) hversion) hend
  -- The literals are cut where a value begins and where it ends.
  have hroot : "<manifest xmlns:android=\"http://schemas.android.com/apk/res/android\"\n" =
      "<manifest " ++ ("xmlns:android" ++ "=\"" ++
        Xml.escape "http://schemas.android.com/apk/res/android" ++ "\"") ++ "\n" := by
    decide
  have hname : "    package=\"" = Xml.indent 0 ++ Xml.indent 1 ++ "package" ++ "=\"" := by decide
  have hone : "    android:versionCode=\"1\"\n" = Xml.indent 0 ++ Xml.indent 1 ++
      "android:versionCode" ++ "=\"" ++ Xml.escape "1" ++ "\"\n" := by
    decide
  have hlast : "    android:versionName=\"" =
      Xml.indent 1 ++ ("android:versionName" ++ "=\"") := by
    decide
  have hclose : "\">\n\n" = "\"" ++ ">\n\n" := by decide
  rw [manifestStart, hroot, hname, hone, hlast, hclose]
  simp only [String.toList_append, List.append_assoc] at hrun ⊢
  exact hrun

theorem readsAs_applicationStart :
    ReadsAs applicationStart.toList [.startTag "application" applicationAttributes] := by
  have htag : Mode.opening.steps "application\n".toList =
      some (.inside "application".toList [] true, []) := by
    decide
  have hbackup : (Mode.inside "application".toList [] true).steps
      "        android:allowBackup=\"true\"\n".toList =
      some (.inside "application".toList (applicationAttributes.take 1) true, []) := by
    decide
  have hicon : (Mode.inside "application".toList (applicationAttributes.take 1) true).steps
      "        android:icon=\"@mipmap/ic_launcher\"\n".toList =
      some (.inside "application".toList (applicationAttributes.take 2) true, []) := by
    decide
  have hlabel : (Mode.inside "application".toList (applicationAttributes.take 2) true).steps
      "        android:label=\"@string/app_name\"\n".toList =
      some (.inside "application".toList (applicationAttributes.take 3) true, []) := by
    decide
  have hrtl : (Mode.inside "application".toList (applicationAttributes.take 3) true).steps
      "        android:supportsRtl=\"true\"\n".toList =
      some (.inside "application".toList (applicationAttributes.take 4) true, []) := by
    decide
  have htheme : (Mode.inside "application".toList (applicationAttributes.take 4) true).steps
      "        android:theme=\"@style/AppTheme\">\n\n".toList =
      some (.text ['\n', '\n'], [.startTag "application" applicationAttributes]) := by
    decide
  have hrun := Mode.steps_append htag (Mode.steps_append hbackup (Mode.steps_append hicon
    (Mode.steps_append hlabel (Mode.steps_append hrtl htheme))))
  have hread := ReadsAs.of_line 1 "    <application\n".toList (by decide) hrun rfl
  unfold applicationStart
  simp only [String.toList_append, List.append_assoc]
  exact hread

def launcherTokens : List Token :=
  [.startTag "activity" [android "name" ".MainActivity", android "exported" "true"],
    .startTag "intent-filter" [],
    .emptyTag "action" [android "name" "android.intent.action.MAIN"],
    .emptyTag "category" [android "name" "android.intent.category.LAUNCHER"],
    .endTag "intent-filter", .endTag "activity"]

theorem readsAs_launcherActivity : ReadsAs launcherActivity.toList launcherTokens := by
  have htag : Mode.opening.steps "activity\n".toList =
      some (.inside "activity".toList [] true, []) := by
    decide
  have hname : (Mode.inside "activity".toList [] true).steps
      ("            android:name=\"." ++ mainActivityName ++ "\"\n").toList =
      some (.inside "activity".toList [android "name" ".MainActivity"] true, []) := by
    decide
  have hexported : (Mode.inside "activity".toList [android "name" ".MainActivity"] true).steps
      "            android:exported=\"true\">\n".toList =
      some (.text ['\n'], launcherTokens.take 1) := by
    decide
  have hfilter : (Mode.text ['\n']).steps "            <intent-filter>\n".toList =
      some (.text ['\n'], [.startTag "intent-filter" []]) := by
    decide
  have haction : (Mode.text ['\n']).steps
      "                <action android:name=\"android.intent.action.MAIN\" />\n".toList =
      some (.text ['\n'], [.emptyTag "action" [android "name" "android.intent.action.MAIN"]]) := by
    decide
  have hcategory : (Mode.text ['\n']).steps
      "                <category android:name=\"android.intent.category.LAUNCHER\" />\n".toList =
      some (.text ['\n'],
        [.emptyTag "category" [android "name" "android.intent.category.LAUNCHER"]]) := by
    decide
  have hend : (Mode.text ['\n']).steps "            </intent-filter>\n".toList =
      some (.text ['\n'], [.endTag "intent-filter"]) := by
    decide
  have hclose : (Mode.text ['\n']).steps "        </activity>\n\n".toList =
      some (.text ['\n', '\n'], [.endTag "activity"]) := by
    decide
  have hrun := Mode.steps_append htag (Mode.steps_append hname (Mode.steps_append hexported
    (Mode.steps_append hfilter (Mode.steps_append haction (Mode.steps_append hcategory
      (Mode.steps_append hend hclose))))))
  have hread := ReadsAs.of_line 2 "        <activity\n".toList (by decide) hrun rfl
  unfold launcherActivity
  simp only [String.toList_append, List.append_assoc] at hread ⊢
  exact hread

theorem readsAs_plainActivity (s : Screen) :
    ReadsAs (plainActivity s).toList
      [.emptyTag "activity" [android "name" ("." ++ s.activityName)]] := by
  have htag : Mode.opening.steps "activity ".toList =
      some (.inside "activity".toList [] true, []) := by
    decide
  have hname := Mode.steps_assignment (a := android "name" ("." ++ s.activityName))
    (show Xml.isName ("android:" ++ "name") by decide) "activity".toList []
  have hend : (Mode.inside "activity".toList [android "name" ("." ++ s.activityName)] false).steps
      " />\n\n".toList = some (.text ['\n', '\n'],
        [.emptyTag "activity" [android "name" ("." ++ s.activityName)]]) := by
    rfl
  have hread := ReadsAs.of_line 2 "        <activity ".toList (by decide)
    (Mode.steps_append htag (Mode.steps_append hname hend)) rfl
  have hescape : Xml.escape (android "name" ("." ++ s.activityName)).value =
      "." ++ s.activityName :=
    Xml.escape_of_isNameChar (isNameChar_activityName s)
  have hline : "        <activity android:name=\"." =
      "        <activity " ++ ("android:" ++ "name") ++ "=\"" ++ "." := by
    decide
  have hlast : "\" />\n\n" = "\"" ++ " />\n\n" := by decide
  rw [hescape] at hread
  simp only [android, String.toList_append, List.append_assoc] at hread ⊢
  unfold plainActivity
  rw [hline, hlast]
  simp only [String.toList_append, List.append_assoc]
  exact hread

theorem readsAs_plainActivities (screens : List (String × Screen)) :
    ReadsAs (String.join (screens.map fun s => plainActivity s.2)).toList
      (screens.map fun s => .emptyTag "activity" [android "name" ("." ++ s.2.activityName)]) := by
  induction screens with
  | nil => exact ReadsAs.nil
  | cons s rest ih =>
    rw [List.map_cons, String.join_cons, String.toList_append]
    exact (readsAs_plainActivity s.2).append ih

theorem readsAs_manifestEnd :
    ReadsAs ("    </application>\n\n" ++ "</manifest>\n").toList
      [.endTag "application", .endTag "manifest"] := by
  have hrun : Mode.opening.steps "/application>\n\n</manifest>".toList =
      some (.text [], [.endTag "application", .endTag "manifest"]) := by
    decide
  exact ReadsAs.of_opening 1 ['\n'] rfl hrun

/-! ## The manifest -/

theorem assemble_plainActivities (stack : List Xml.Frame) (done : List Node) (rest : List Token)
    (screens : List (String × Screen)) :
    Node.assemble stack done (screens.map (fun s =>
        .emptyTag "activity" [android "name" ("." ++ s.2.activityName)]) ++ rest) =
      Node.assemble stack (done ++ screens.map fun s => plainElement s.2) rest := by
  induction screens generalizing done with
  | nil => simp
  | cons s screens ih => simp [Node.assemble, ih, plainElement]

theorem ofText?_manifest (p : Project) : Node.ofText? (manifest p) = some [manifestElement p] := by
  have hbody := ((readsAs_applicationStart.append readsAs_launcherActivity).append
    (readsAs_plainActivities p.secondaryScreens)).append readsAs_manifestEnd
  obtain ⟨after, hafter, hrun⟩ := hbody ['\n', '\n'] rfl
  have hsteps := Mode.steps_append (steps_manifestStart p) hrun
  have htokens : Token.ofText? (manifest p) =
      some (.instruction "xml version=\"1.0\" encoding=\"utf-8\"" ::
        .startTag "manifest" (manifestAttributes p) ::
        .startTag "application" applicationAttributes :: (launcherTokens ++
          (p.secondaryScreens.map (fun s =>
            .emptyTag "activity" [android "name" ("." ++ s.2.activityName)]) ++
              [.endTag "application", .endTag "manifest"]))) := by
    unfold manifest Token.ofText?
    simp only [String.toList_append, List.append_assoc] at hsteps ⊢
    rw [hsteps, Option.bind_some, Mode.finish_of_isSpace hafter]
    simp only [List.cons_append, List.nil_append]
  rw [Node.ofText?, htokens]
  simp [Node.assemble, launcherTokens, assemble_plainActivities, manifestElement, launcherElement]

/-- Whatever texts a project holds, its manifest reads as one element: the package and the version
are those of the project, and the application holds the activity that the launcher starts and then
one plain activity for each screen beside the main one, in the order of the ids. -/
theorem manifest_reads_as_activities (p : Project) :
    Node.ofText? (manifest p) = some [manifestElement p] ∧
      p.secondaryScreens.Pairwise (fun s t => s.1 < t.1) ∧
      ∀ id s, (id, s) ∈ p.secondaryScreens ↔ p.screens.find? id = some s ∧ id ≠ mainScreenId := by
  refine ⟨ofText?_manifest p, p.screens.ordered.filter _, fun id s => ?_⟩
  rw [Project.secondaryScreens, List.mem_filter, p.screens.find?_eq_some_iff, bne_iff_ne]

end AppScaffold.Render
