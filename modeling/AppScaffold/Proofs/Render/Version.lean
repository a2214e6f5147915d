import AppScaffold.Proofs.Check.Form
import AppScaffold.Proofs.Groovy.Literal
import AppScaffold.Proofs.Render.Sources
import AppScaffold.Proofs.Text.Occurrence

/-!
# Versions in build files

The version of an app stands in its build file as a literal between double quotes. Main statement:
`version_literal_plain_iff`, the literal is a plain text that ends where the template ends it and
denotes the version exactly when the version holds no `$`.
-/

set_option autoImplicit false

namespace AppScaffold.Render

open App (Project)
open Groovy (Literal)
open Text (NoneBegins)

def versionLiteral? (build : String) : Option Literal :=
  (Text.cutAt? "versionName ".toList build.toList).map fun r => Groovy.readLiteral r.2

/-! ## The build file -/

def linesAbovePackage : List String := [
  "plugins \x7b",
  "    id 'com.android.application'",
  "\x7d",
  "",
  "android \x7b",
  "    compileSdkVersion 31",
  "",
  "    defaultConfig \x7b"]

def linesAboveVersion : List String := [
  "        minSdkVersion 21",
  "        targetSdkVersion 31",
  "        versionCode 1"]

def linesBelowVersion : List String := [
  "    \x7d",
  "",
  "    buildTypes \x7b",
  "        release \x7b",
  "            minifyEnabled false",
  "            proguardFiles getDefaultProguardFile('proguard-android-optimize.txt'), " ++
    "'proguard-rules.pro'",
  "        \x7d",
  "    \x7d",
  "",
  "    compileOptions \x7b",
  "        sourceCompatibility JavaVersion.VERSION_1_8",
  "        targetCompatibility JavaVersion.VERSION_1_8",
  "    \x7d",
  "\x7d",
  "",
  "dependencies \x7b",
  "    implementation 'androidx.appcompat:appcompat:1.4.0'",
  "    implementation 'com.google.android.material:material:1.4.0'",
  "    implementation 'androidx.constraintlayout:constraintlayout:2.1.2'",
  "\x7d"]

theorem appBuild_eq (p : Project) :
    appBuild p = unlines (linesAbovePackage ++
      ("        applicationId \"" ++ p.package ++ "\"") :: linesAboveVersion ++
      ("        versionName \"" ++ doubleQuoted p.version ++ "\"") :: linesBelowVersion) := by
  have hcompile : "    compileSdkVersion " ++ Nat.repr compileSdk = "    compileSdkVersion 31" := by
    decide
  have hmin : "        minSdkVersion " ++ Nat.repr minSdk = "        minSdkVersion 21" := by
    decide
  have htarget : "        targetSdkVersion " ++ Nat.repr targetSdk =
      "        targetSdkVersion 31" := by
    decide
  unfold appBuild
  rw [hcompile, hmin, htarget]
  rfl

def behindVersion : List Char := '\n' :: (unlines linesBelowVersion).toList

def beforePackage : List Char :=
  (unlines linesAbovePackage).toList ++ "        applicationId \"".toList

def beforeVersion : List Char :=
  "\"\n".toList ++ (unlines linesAboveVersion).toList ++ "        ".toList

theorem toList_appBuild (p : Project) :
    (appBuild p).toList = (beforePackage ++ p.package.toList ++ beforeVersion) ++
      ("versionName ".toList ++
        '"' :: ((doubleQuoted p.version).toList ++ '"' :: behindVersion)) := by
  have hid : "        applicationId \"" ++ p.package ++ "\"" =
      "        applicationId \"" ++ (p.package ++ "\"") := String.append_assoc
  have hname : "        versionName \"" = "        " ++ ("versionName " ++ "\"") := by decide
  have hmark (xs : List Char) : '"' :: xs = "\"".toList ++ xs := rfl
  have hbreak (xs : List Char) : '\n' :: xs = "\n".toList ++ xs := rfl
  have hpair : "\"\n" = "\"" ++ "\n" := by decide
  rw [appBuild_eq, hname, toList_unlines_append, toList_unlines_append, toList_unlines_cons,
    toList_unlines_cons]
  unfold beforePackage beforeVersion behindVersion
  rw [hpair]
  simp only [hmark, hbreak, String.toList_append, List.append_assoc]

/-! ## The literal -/

theorem noneBegins_beforePackage (rest : List Char) :
    NoneBegins "versionName ".toList beforePackage rest := by
  have hnot : 'v' ∉ beforePackage := by decide
  exact Text.noneBegins_of_not_mem hnot

/-- A package can end in `versionName`, but no blank follows it. -/
theorem noneBegins_package {p : Project} (hp : Check.Acceptable p) (rest : List Char) :
    NoneBegins "versionName ".toList p.package.toList (beforeVersion ++ rest) := by
  refine Text.noneBegins_of_find? (q := fun c => !(Pattern.isWordChar c || c == '.')) (a := ' ')
    (by decide) (fun c hc => ?_) ?_
  · rcases hp.isWordChar_of_mem_package hc with rfl | hword
    · rfl
    · simp [hword]
  · obtain ⟨tail, htail⟩ : ∃ tail, beforeVersion = '"' :: tail := ⟨_, rfl⟩
    rw [htail, List.cons_append, List.find?_cons_of_pos (by decide)]
    decide

theorem noneBegins_beforeVersion (rest : List Char) :
    NoneBegins "versionName ".toList beforeVersion rest := by
  have hsplit : beforeVersion = beforeVersion.takeWhile (· != 'v') ++
      ('v' :: "ersionCode 1".toList ++ "\n        ".toList) := by decide
  have hline : ¬ "versionName ".toList <+: 'v' :: "ersionCode 1".toList := by decide
  rw [hsplit, Text.noneBegins_append, List.cons_append, NoneBegins]
  refine ⟨Text.noneBegins_of_not_mem (by decide), fun hpre => hline ?_,
    Text.noneBegins_of_not_mem (by decide)⟩
  -- the line of `versionCode` is long enough to hold the part
  exact List.prefix_of_prefix_length_le hpre
    ⟨"\n        ".toList ++ rest, by simp⟩ (by decide)

theorem cutAt?_appBuild {p : Project} (hp : Check.Acceptable p) :
    Text.cutAt? "versionName ".toList (appBuild p).toList =
      some (beforePackage ++ p.package.toList ++ beforeVersion,
        '"' :: ((doubleQuoted p.version).toList ++ '"' :: behindVersion)) := by
  rw [Text.cutAt?_eq_some_iff (by decide)]
  refine ⟨toList_appBuild p, ?_⟩
  rw [Text.noneBegins_append, Text.noneBegins_append]
  exact ⟨⟨noneBegins_beforePackage _, noneBegins_package hp _⟩, noneBegins_beforeVersion _⟩

theorem versionLiteral?_appBuild {p : Project} (hp : Check.Acceptable p) :
    versionLiteral? (appBuild p) =
      some (Groovy.readBody ((doubleQuoted p.version).toList ++ '"' :: behindVersion)) := by
  have hbreak : behindVersion.head? ≠ some '"' := by
    simp [behindVersion]
  rw [versionLiteral?, cutAt?_appBuild hp, Option.map_some,
    Groovy.readLiteral_doubleQuoted p.version hbreak]

/-- The literal of the version of an accepted project is a plain text, ends where the template ends
it and denotes the version on one line, exactly when the version holds no `$`. The first `$` starts
an expression. -/
theorem version_literal_plain_iff (maxDepth : Nat) (p : Project)
    (h : (Check.project maxDepth p).errors = []) :
    (versionLiteral? (appBuild p) = some (.plain (singleLine p.version.toList) behindVersion) ↔
        '$' ∉ p.version.toList) ∧
      ('$' ∈ p.version.toList → ∃ after, versionLiteral? (appBuild p) =
        some (.interpolated ((singleLine p.version.toList).takeWhile (· != '$')) after)) := by
  have hp : Check.Acceptable p :=
    (Check.isValid_project_iff maxDepth p).mp (List.isEmpty_iff.mpr h)
  have hdollar (hmem : '$' ∈ p.version.toList) : ∃ after, versionLiteral? (appBuild p) =
      some (.interpolated ((singleLine p.version.toList).takeWhile (· != '$')) after) := by
    obtain ⟨after, hread⟩ := Groovy.readBody_doubleQuoted_of_dollar hmem ('"' :: behindVersion)
    exact ⟨after, by rw [versionLiteral?_appBuild hp, hread]⟩
  refine ⟨⟨fun hplain hmem => ?_, fun hnot => ?_⟩, hdollar⟩
  · obtain ⟨after, hread⟩ := hdollar hmem
    rw [hread] at hplain
    simp at hplain
  · rw [versionLiteral?_appBuild hp, Groovy.readBody_doubleQuoted hnot]

def versioned (version : String) : Project := Check.notesProject.withVersion version

theorem acceptable_versioned (version : String) : Check.Acceptable (versioned version) :=
  let h := Check.acceptable_notesProject
  ⟨h.nameGiven, h.packageGiven, h.package, h.home, h.ids, h.classes⟩

theorem errors_versioned (version : String) : (Check.project 32 (versioned version)).errors = [] :=
  List.isEmpty_iff.mp ((Check.isValid_project_iff 32 _).mpr (acceptable_versioned version))

def quotedVersion : String := "1.0\\\"\r\n\\n\"\"\""

theorem version_literal_plain_quotedVersion :
    (Check.project 32 (versioned quotedVersion)).errors = [] ∧
      versionLiteral? (appBuild (versioned quotedVersion)) =
        some (.plain "1.0\\\"  \\n\"\"\"".toList behindVersion) := by
  have herrors := errors_versioned quotedVersion
  have hline : singleLine (versioned quotedVersion).version.toList =
      "1.0\\\"  \\n\"\"\"".toList := by
    decide
  refine ⟨herrors, ?_⟩
  rw [(version_literal_plain_iff 32 _ herrors).1.mpr (by decide), hline]

/-- An expression, which the build evaluates. -/
def expressionVersion : String := "1.0.$\x7bbuild()\x7d"

theorem version_literal_not_plain :
    (Check.project 32 (versioned expressionVersion)).errors = [] ∧
      versionLiteral? (appBuild (versioned expressionVersion)) =
        some (.interpolated "1.0.".toList ("\x7bbuild()\x7d\"".toList ++ behindVersion)) := by
  refine ⟨errors_versioned _, ?_⟩
  have hquoted : (doubleQuoted (versioned expressionVersion).version).toList =
      "1.0.$\x7bbuild()\x7d".toList := by
    decide
  rw [versionLiteral?_appBuild (acceptable_versioned _), hquoted]
  rfl

end AppScaffold.Render
